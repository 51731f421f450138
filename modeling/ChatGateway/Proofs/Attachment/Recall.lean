import ChatGateway.Attachment.Cache
import Mathlib.Data.Finset.Card
import Mathlib.Data.List.Nodup

/-!
# What a cache gives back

A cache knows entries in an order and nothing of what it was called for.  This module reads the
history of its calls and answers backwards instead: which payload was inserted last under an id, and
which other ids have been inserted or fetched since that id was.  The cache gives back nothing but
what was inserted last and is within its time, and it does give that back as long as fewer other ids
have come since than there is room for.
-/

namespace ChatGateway.AttachmentCache

open Attachment

/-! ## Calls -/

/-- What a cache may be asked to do. -/
inductive Call where
  | store (id : String) (payload : Payload)
  | get (id : String)
  | lookup (request : String) (number : Nat)
  | clear
  deriving DecidableEq, Repr, Inhabited

/-- A call and its time. -/
structure TimedCall where
  time : Nat
  call : Call
  deriving DecidableEq, Repr, Inhabited

/-- What a call gives back. -/
inductive Answer where
  | stored (result : Except Refusal Outcome)
  | fetched (payload : Option Payload)
  | nothing
  deriving DecidableEq, Inhabited

/-- The id that a call fetches. -/
def Call.wanted? : Call → Option String
  | .get id => some id
  | .lookup request number => some (scopedId request number)
  | _ => none

/-- Does what a call asks for. -/
def perform (cache : AttachmentCache) (timed : TimedCall) : Answer × AttachmentCache :=
  match timed.call with
  | .store id payload =>
      let (result, after) := cache.store timed.time id payload
      (.stored result, after)
  | .get id =>
      let (payload, after) := cache.fetch timed.time id
      (.fetched payload, after)
  | .lookup request number =>
      let (payload, after) := cache.lookup timed.time request number
      (.fetched payload, after)
  | .clear => (.nothing, cache.clear)

/-- A call with its time and what it gave back. -/
structure Record where
  time : Nat
  call : Call
  answer : Answer
  deriving DecidableEq, Inhabited

/-- The history after calls that follow a history, the latest first, and the cache after them. -/
def run (cache : AttachmentCache) (history : List Record) :
    List TimedCall → List Record × AttachmentCache
  | [] => (history, cache)
  | timed :: rest =>
      let (answer, after) := cache.perform timed
      after.run (⟨timed.time, timed.call, answer⟩ :: history) rest

/-! ## Histories -/

namespace Record

/-- What was inserted under an id. -/
def inserted? (id : String) (record : Record) : Option Entry :=
  match record.call, record.answer with
  | .store other payload, .stored (.ok .inserted) =>
      if other = id then some ⟨payload, record.time⟩ else none
  | _, _ => none

/-- The id that was inserted or fetched with success. -/
def touched? (record : Record) : Option String :=
  match record.call, record.answer with
  | .store id _, .stored (.ok .inserted) => some id
  | call, .fetched (some _) => call.wanted?
  | _, _ => none

end Record

/-- What was inserted last under an id since any clearing. -/
def latestInsertion? (id : String) (history : List Record) : Option Entry :=
  (history.takeWhile fun record => record.call ≠ .clear).findSome? (Record.inserted? id)

/-- The other ids that have been inserted or fetched since an id was. -/
def othersSince (id : String) (history : List Record) : Finset String :=
  ((history.filterMap Record.touched?).takeWhile (· ≠ id)).toFinset

theorem latestInsertion?_cons (id : String) (record : Record) (history : List Record) :
    latestInsertion? id (record :: history) =
      if record.call = .clear then none
      else (record.inserted? id).or (latestInsertion? id history) := by
  by_cases clears : record.call = .clear
  · simp [latestInsertion?, clears]
  · simp only [latestInsertion?, List.takeWhile_cons, clears, ne_eq, not_false_eq_true,
      decide_true, if_true, if_false, List.findSome?_cons]
    cases record.inserted? id <;> rfl

theorem othersSince_of_idle {record : Record} (idle : record.touched? = none) (id : String)
    (history : List Record) : othersSince id (record :: history) = othersSince id history := by
  simp [othersSince, idle]

theorem othersSince_of_touched {record : Record} {other : String}
    (touched : record.touched? = some other) (id : String) (history : List Record) :
    othersSince id (record :: history) =
      if other = id then ∅ else insert other (othersSince id history) := by
  by_cases same : other = id <;> simp [othersSince, touched, same]

/-! ## What a call does -/

/-- What can come of a call. -/
inductive PerformCase (cache : AttachmentCache) (timed : TimedCall) : Prop where
  /-- Nothing is stored and nothing changes. -/
  | refused {id : String} {payload : Payload} {result : Except Refusal Outcome}
      (call : timed.call = .store id payload)
      (effect : cache.perform timed = (.stored result, cache)) (refused : result ≠ .ok .inserted)
  | inserted {id : String} {payload : Payload} (call : timed.call = .store id payload)
      (gone : ∀ entry, cache.peek? id = some entry → cache.isLive timed.time entry = false)
      (effect : cache.perform timed =
        (.stored (.ok .inserted), cache.put id ⟨payload, timed.time⟩))
  | hit {id : String} {entry : Entry} (wanted : timed.call.wanted? = some id)
      (found : cache.peek? id = some entry) (live : cache.isLive timed.time entry = true)
      (effect : cache.perform timed =
        (.fetched (some entry.payload),
          { cache with
            entries := (id, entry) :: cache.others id
            counters := { cache.counters with hits := cache.counters.hits + 1 } }))
  | expired {id : String} {entry : Entry} (wanted : timed.call.wanted? = some id)
      (found : cache.peek? id = some entry) (dead : cache.isLive timed.time entry = false)
      (effect : cache.perform timed =
        (.fetched none,
          { cache with
            entries := cache.others id
            counters :=
              { cache.counters with
                misses := cache.counters.misses + 1
                expired := cache.counters.expired + 1 } }))
  | absent {id : String} (wanted : timed.call.wanted? = some id) (absent : cache.peek? id = none)
      (effect : cache.perform timed =
        (.fetched none,
          { cache with
            counters := { cache.counters with misses := cache.counters.misses + 1 } }))
  | cleared (call : timed.call = .clear) (effect : cache.perform timed = (.nothing, cache.clear))

/-- A call that fetches an id does what fetching does. -/
theorem perform_of_wanted {timed : TimedCall} {id : String}
    (wanted : timed.call.wanted? = some id) (cache : AttachmentCache) :
    cache.perform timed =
      (.fetched (cache.fetch timed.time id).1, (cache.fetch timed.time id).2) := by
  obtain ⟨time, call⟩ := timed
  cases call with
  | store | clear => cases wanted
  | get | lookup =>
      cases wanted
      rfl

theorem performCase_of_wanted {timed : TimedCall} {id : String}
    (wanted : timed.call.wanted? = some id) (cache : AttachmentCache) :
    PerformCase cache timed := by
  have effect := perform_of_wanted wanted cache
  rw [fetch] at effect
  cases found : cache.peek? id with
  | none =>
      rw [found] at effect
      exact .absent wanted found effect
  | some entry =>
      rw [found] at effect
      cases live : cache.isLive timed.time entry with
      | true => exact .hit wanted found live (by simpa [live] using effect)
      | false => exact .expired wanted found live (by simpa [live] using effect)

theorem performCase (cache : AttachmentCache) (timed : TimedCall) : PerformCase cache timed := by
  obtain ⟨time, call⟩ := timed
  cases call with
  | get | lookup => exact performCase_of_wanted rfl cache
  | clear => exact .cleared rfl rfl
  | store id payload =>
      have effect : cache.perform ⟨time, .store id payload⟩ =
          (.stored (cache.store time id payload).1, (cache.store time id payload).2) := rfl
      rw [store] at effect
      split at effect
      · exact .refused rfl effect nofun
      · split at effect
        · exact .refused rfl effect nofun
        · split at effect
          · exact .refused rfl effect nofun
          · rename_i gone
            refine .inserted rfl ?_ effect
            intro entry found
            simpa [found] using gone

/-- What is fetched is an entry within its time. -/
theorem fetch_eq_some {cache : AttachmentCache} {now : Nat} {id : String} {payload : Payload} :
    (cache.fetch now id).1 = some payload ↔
      ∃ time, cache.peek? id = some ⟨payload, time⟩ ∧ cache.isLive now ⟨payload, time⟩ = true := by
  rw [fetch]
  cases found : cache.peek? id with
  | none => simp
  | some entry =>
      obtain ⟨held, time⟩ := entry
      cases live : cache.isLive now ⟨held, time⟩ with
      | true =>
          simp only [live, if_true, Option.some.injEq, Entry.mk.injEq]
          constructor
          · rintro rfl
            exact ⟨time, ⟨rfl, rfl⟩, live⟩
          · rintro ⟨_, ⟨same, -⟩, -⟩
            exact same
      | false =>
          simp only [live, Bool.false_eq_true, if_false, reduceCtorEq, Option.some.injEq,
            Entry.mk.injEq, false_iff]
          rintro ⟨_, ⟨rfl, rfl⟩, alive⟩
          rw [live] at alive
          cases alive

/-! ## The history of a cache -/

/-- What the entries of a cache have to do with the history of its calls at a time. -/
structure Recalls (settings : Settings) (now : Nat) (history : List Record)
    (cache : AttachmentCache) : Prop where
  settings : cache.settings = settings
  different : (cache.entries.map Prod.fst).Nodup
  bounded : cache.entries.length ≤ cache.capacity
  latest : ∀ id entry, (id, entry) ∈ cache.entries → latestInsertion? id history = some entry
  /-- What stands before an entry has come since. -/
  ordered : cache.entries.Pairwise fun first second => first.1 ∈ othersSince second.1 history
  kept : ∀ id entry, latestInsertion? id history = some entry → cache.isLive now entry = true →
    (othersSince id history).card < cache.capacity → (id, entry) ∈ cache.entries
  counted : cache.counters.hits + cache.counters.misses =
    history.countP fun record => record.call.wanted?.isSome

variable {settings : Settings} {now : Nat} {history : List Record} {cache : AttachmentCache}

theorem mem_of_peek? {id : String} {entry : Entry} (found : cache.peek? id = some entry) :
    (id, entry) ∈ cache.entries := by
  obtain ⟨pair, first, rfl⟩ := Option.map_eq_some_iff.mp found
  have same : pair.1 = id := by simpa using List.find?_some first
  subst same
  exact List.mem_of_find?_eq_some first

theorem peek?_eq_some (different : (cache.entries.map Prod.fst).Nodup) {id : String}
    {entry : Entry} : cache.peek? id = some entry ↔ (id, entry) ∈ cache.entries := by
  constructor
  · exact mem_of_peek?
  · intro member
    obtain ⟨pair, first⟩ : ∃ pair, cache.entries.find? (fun entry => entry.1 == id) = some pair :=
      Option.isSome_iff_exists.mp (List.find?_isSome.mpr ⟨_, member, by simp⟩)
    have same : pair.1 = id := by simpa using List.find?_some first
    have own : pair = (id, entry) :=
      List.inj_on_of_nodup_map different (List.mem_of_find?_eq_some first) member same
    rw [peek?, first, own]
    rfl

theorem mem_others {id : String} {pair : String × Entry} :
    pair ∈ cache.others id ↔ pair ∈ cache.entries ∧ pair.1 ≠ id := by
  simp [others]

theorem others_sublist (cache : AttachmentCache) (id : String) :
    (cache.others id).Sublist cache.entries := List.filter_sublist

/-- As many entries stand before an entry as other ids have come since, at most. -/
theorem Recalls.length_le_card (recalls : Recalls settings now history cache)
    {before after : List (String × Entry)} {pair : String × Entry}
    (split : cache.entries = before ++ pair :: after) :
    (before.map Prod.fst).toFinset ⊆ othersSince pair.1 history ∧
      (before.map Prod.fst).toFinset.card = before.length := by
  have different := recalls.different
  have ordered := recalls.ordered
  rw [split] at different ordered
  constructor
  · intro other member
    obtain ⟨entry, inside, rfl⟩ := List.mem_map.mp (List.mem_toFinset.mp member)
    exact (List.pairwise_append.mp ordered).2.2 entry inside pair List.mem_cons_self
  · rw [List.map_append] at different
    rw [List.toFinset_card_of_nodup different.of_append_left, List.length_map]

/-- There is room for an entry that is held already. -/
theorem Recalls.length_others_lt (recalls : Recalls settings now history cache) {id : String}
    {entry : Entry} (member : (id, entry) ∈ cache.entries) :
    (cache.others id).length < cache.capacity := by
  have shorter : (cache.others id).length < cache.entries.length :=
    List.length_filter_lt_length_iff_exists.mpr ⟨_, member, by simp⟩
  exact shorter.trans_le recalls.bounded

theorem Recalls.mono (recalls : Recalls settings now history cache) {later : Nat}
    (ordered : now ≤ later) : Recalls settings later history cache := by
  refine { recalls with kept := fun id entry latest live few => ?_ }
  apply recalls.kept id entry latest _ few
  simp only [isLive, decide_eq_true_eq] at live ⊢
  omega

/-! ## One call -/

theorem inserted?_of_touched? {record : Record} (idle : record.touched? = none) (id : String) :
    record.inserted? id = none := by
  unfold Record.inserted?
  split
  · rename_i call answer
    simp [Record.touched?, call, answer] at idle
  · rfl

/-- A call that touches no id may only take away what is past its time. -/
theorem Recalls.idle {record : Record} {after : AttachmentCache}
    (recalls : Recalls settings now history cache) (idle : record.touched? = none)
    (unclear : record.call ≠ .clear) (same : after.settings = cache.settings)
    (fewer : after.entries.Sublist cache.entries)
    (stay : ∀ pair ∈ cache.entries, cache.isLive now pair.2 = true → pair ∈ after.entries)
    (counted : after.counters.hits + after.counters.misses =
      (record :: history).countP fun record => record.call.wanted?.isSome) :
    Recalls settings now (record :: history) after := by
  have capacity : after.capacity = cache.capacity := by rw [AttachmentCache.capacity, same]; rfl
  have latest (id : String) :
      latestInsertion? id (record :: history) = latestInsertion? id history := by
    rw [latestInsertion?_cons, if_neg unclear, inserted?_of_touched? idle, Option.none_or]
  constructor
  · exact same.trans recalls.settings
  · exact recalls.different.sublist (fewer.map _)
  · rw [capacity]
    exact fewer.length_le.trans recalls.bounded
  · intro id entry member
    rw [latest]
    exact recalls.latest id entry (fewer.subset member)
  · simp only [othersSince_of_idle idle]
    exact recalls.ordered.sublist fewer
  · intro id entry inserted live few
    rw [latest] at inserted
    rw [othersSince_of_idle idle, capacity] at few
    rw [isLive, same] at live
    exact stay _ (recalls.kept id entry inserted live few) live
  · exact counted

/-- A call that touches an id puts its entry first.  The last entries may make room for it. -/
theorem Recalls.touch {record : Record} {after : AttachmentCache} {id : String} {entry : Entry}
    {rest : List (String × Entry)} (recalls : Recalls settings now history cache)
    (touched : record.touched? = some id) (unclear : record.call ≠ .clear)
    (own : (record.inserted? id).or (latestInsertion? id history) = some entry)
    (alien : ∀ other, id ≠ other → record.inserted? other = none)
    (same : after.settings = cache.settings) (entries : after.entries = (id, entry) :: rest)
    (fewer : rest.Sublist (cache.others id)) (room : rest.length < cache.capacity)
    (stay : ∀ pair ∈ cache.others id,
      (insert id (othersSince pair.1 history)).card < cache.capacity → pair ∈ rest)
    (counted : after.counters.hits + after.counters.misses =
      (record :: history).countP fun record => record.call.wanted?.isSome) :
    Recalls settings now (record :: history) after := by
  have capacity : after.capacity = cache.capacity := by rw [AttachmentCache.capacity, same]; rfl
  have kept := fewer.trans (cache.others_sublist id)
  have apart (pair : String × Entry) (member : pair ∈ rest) : id ≠ pair.1 :=
    Ne.symm (mem_others.mp (fewer.subset member)).2
  have latest (other : String) (different : id ≠ other) :
      latestInsertion? other (record :: history) = latestInsertion? other history := by
    rw [latestInsertion?_cons, if_neg unclear, alien other different, Option.none_or]
  have latestOwn : latestInsertion? id (record :: history) = some entry := by
    rw [latestInsertion?_cons, if_neg unclear, own]
  have since (other : String) (different : id ≠ other) :
      othersSince other (record :: history) = insert id (othersSince other history) := by
    rw [othersSince_of_touched touched, if_neg different]
  constructor
  · exact same.trans recalls.settings
  · rw [entries, List.map_cons, List.nodup_cons]
    constructor
    · intro among
      obtain ⟨pair, member, same⟩ := List.mem_map.mp among
      exact apart pair member same.symm
    · exact recalls.different.sublist (kept.map _)
  · rw [entries, List.length_cons, capacity]
    exact room
  · intro other held member
    rw [entries, List.mem_cons] at member
    rcases member with first | member
    · cases first
      exact latestOwn
    · rw [latest other (apart _ member)]
      exact recalls.latest other held (kept.subset member)
  · rw [entries, List.pairwise_cons]
    constructor
    · intro pair member
      rw [since _ (apart pair member)]
      exact Finset.mem_insert_self _ _
    · refine (recalls.ordered.sublist kept).imp_of_mem ?_
      intro first second _ member newer
      rw [since _ (apart second member)]
      exact Finset.mem_insert_of_mem newer
  · intro other held inserted live few
    rw [entries, List.mem_cons]
    by_cases first : id = other
    · subst first
      rw [latestOwn] at inserted
      cases inserted
      exact .inl rfl
    · rw [latest other first] at inserted
      rw [since other first, capacity] at few
      rw [isLive, same] at live
      have fewBefore : (othersSince other history).card < cache.capacity :=
        (Finset.card_le_card (Finset.subset_insert _ _)).trans_lt few
      have member := recalls.kept other held inserted live fewBefore
      exact .inr (stay _ (mem_others.mpr ⟨member, Ne.symm first⟩) few)
  · exact counted

/-- What stands in the way of a new entry is at the end: it has been passed by as many other ids as
there is room for. -/
theorem Recalls.mem_take (recalls : Recalls settings now history cache) {id : String}
    (absent : ∀ pair ∈ cache.entries, pair.1 ≠ id) {pair : String × Entry}
    (member : pair ∈ cache.entries)
    (few : (insert id (othersSince pair.1 history)).card < cache.capacity) :
    pair ∈ cache.entries.take (cache.capacity - 1) := by
  obtain ⟨before, after, split⟩ := List.append_of_mem member
  obtain ⟨since, count⟩ := recalls.length_le_card split
  have new : id ∉ (before.map Prod.fst).toFinset := by
    intro among
    obtain ⟨other, inside, same⟩ := List.mem_map.mp (List.mem_toFinset.mp among)
    exact absent other (split ▸ List.mem_append_left _ inside) same
  have passed : before.length + 1 ≤ (insert id (othersSince pair.1 history)).card := by
    rw [← count, ← Finset.card_insert_of_notMem new]
    exact Finset.card_le_card (Finset.insert_subset_insert id since)
  obtain ⟨left, room⟩ : ∃ left, cache.capacity - 1 - before.length = left + 1 :=
    ⟨cache.capacity - 2 - before.length, by omega⟩
  rw [split, List.take_append, room, List.take_succ_cons]
  exact List.mem_append_right _ List.mem_cons_self

theorem capacity_pos (cache : AttachmentCache) : 0 < cache.capacity :=
  Nat.lt_of_lt_of_le Nat.one_pos (Nat.le_max_right _ _)

theorem entries_put_of_some {id : String} {old : Entry} (found : cache.peek? id = some old)
    (entry : Entry) : (cache.put id entry).entries = (id, entry) :: cache.others id := by
  simp [AttachmentCache.put, found]

theorem entries_put_of_none {id : String} (found : cache.peek? id = none) (entry : Entry) :
    (cache.put id entry).entries = (id, entry) :: cache.entries.take (cache.capacity - 1) := by
  simp [AttachmentCache.put, found]

theorem Recalls.put (recalls : Recalls settings now history cache) (time : Nat) (id : String)
    (payload : Payload) :
    Recalls settings now (⟨time, .store id payload, .stored (.ok .inserted)⟩ :: history)
      (cache.put id ⟨payload, time⟩) := by
  have own : Record.inserted? id ⟨time, .store id payload, .stored (.ok .inserted)⟩ =
      some ⟨payload, time⟩ := if_pos rfl
  have alien (other : String) (different : id ≠ other) :
      Record.inserted? other ⟨time, .store id payload, .stored (.ok .inserted)⟩ = none :=
    if_neg different
  have fresh : (Record.inserted? id ⟨time, .store id payload, .stored (.ok .inserted)⟩).or
      (latestInsertion? id history) = some ⟨payload, time⟩ := by
    rw [own, Option.some_or]
  cases found : cache.peek? id with
  | some old =>
      have member := (peek?_eq_some recalls.different).mp found
      exact recalls.touch rfl nofun fresh alien rfl (entries_put_of_some found _)
        (List.Sublist.refl _) (recalls.length_others_lt member) (fun _ member _ => member)
        recalls.counted
  | none =>
      have absent : ∀ pair ∈ cache.entries, pair.1 ≠ id := by simpa [peek?] using found
      have all : cache.others id = cache.entries := by simpa [others] using absent
      refine recalls.touch rfl nofun fresh alien rfl (entries_put_of_none found _) ?_ ?_ ?_
        recalls.counted
      · rw [all]
        exact List.take_sublist _ _
      · have room := cache.capacity_pos
        rw [List.length_take]
        omega
      · intro pair member few
        rw [all] at member
        exact recalls.mem_take absent member few

section

variable {timed : TimedCall} {id : String}

theorem unclear_of_wanted (wanted : timed.call.wanted? = some id) : timed.call ≠ .clear := by
  intro clears
  rw [clears] at wanted
  cases wanted

theorem touched?_fetched (wanted : timed.call.wanted? = some id) (payload : Option Payload) :
    Record.touched? ⟨timed.time, timed.call, .fetched payload⟩ = payload.map fun _ => id := by
  obtain ⟨time, call⟩ := timed
  cases call with
  | store | clear => cases wanted
  | get | lookup =>
      cases wanted
      cases payload <;> rfl

theorem inserted?_fetched (id : String) (timed : TimedCall) (payload : Option Payload) :
    Record.inserted? id ⟨timed.time, timed.call, .fetched payload⟩ = none := by
  obtain ⟨time, call⟩ := timed
  cases call <;> rfl

theorem countP_fetched (wanted : timed.call.wanted? = some id) (answer : Answer)
    (history : List Record) :
    List.countP (fun record => record.call.wanted?.isSome)
        (⟨timed.time, timed.call, answer⟩ :: history) =
      List.countP (fun record => record.call.wanted?.isSome) history + 1 :=
  List.countP_cons_of_pos (by simp [wanted])

end

/-- Whatever is called, the cache keeps to the history with that call. -/
theorem Recalls.perform {timed : TimedCall} (recalls : Recalls settings timed.time history cache) :
    Recalls settings timed.time (⟨timed.time, timed.call, (cache.perform timed).1⟩ :: history)
      (cache.perform timed).2 := by
  have counted := recalls.counted
  cases cache.performCase timed with
  | @refused id payload result call effect refused =>
      rw [effect, call]
      have idle : Record.touched? ⟨timed.time, .store id payload, .stored result⟩ = none := by
        unfold Record.touched?
        split
        · rename_i same
          cases same
          exact (refused rfl).elim
        · rename_i same
          cases same
        · rfl
      exact recalls.idle idle nofun rfl (List.Sublist.refl _) (fun _ member _ => member) counted
  | inserted call gone effect =>
      rw [effect, call]
      exact recalls.put _ _ _
  | @hit id entry wanted found live effect =>
      rw [effect]
      have member := (peek?_eq_some recalls.different).mp found
      refine recalls.touch (touched?_fetched wanted _) (unclear_of_wanted wanted) ?_
        (fun other _ => inserted?_fetched other timed _) rfl rfl (List.Sublist.refl _)
        (recalls.length_others_lt member) (fun _ member _ => member) ?_
      · rw [inserted?_fetched, Option.none_or]
        exact recalls.latest id entry member
      · rw [countP_fetched wanted, ← counted]
        exact Nat.add_right_comm _ _ _
  | @expired id entry wanted found dead effect =>
      rw [effect]
      have member := (peek?_eq_some recalls.different).mp found
      refine recalls.idle (touched?_fetched wanted none) (unclear_of_wanted wanted) rfl
        (cache.others_sublist id) ?_ ?_
      · intro pair inside live
        refine mem_others.mpr ⟨inside, ?_⟩
        rintro rfl
        have own := (peek?_eq_some recalls.different).mpr inside
        rw [found] at own
        cases own
        rw [dead] at live
        cases live
      · rw [countP_fetched wanted, ← counted]
        rfl
  | absent wanted absent effect =>
      rw [effect]
      refine recalls.idle (touched?_fetched wanted none) (unclear_of_wanted wanted) rfl
        (List.Sublist.refl _) (fun _ member _ => member) ?_
      rw [countP_fetched wanted, ← counted]
      rfl
  | cleared call effect =>
      rw [effect, call]
      constructor
      · exact recalls.settings
      · exact List.nodup_nil
      · exact Nat.zero_le _
      · intro id entry member
        cases member
      · exact .nil
      · intro id entry inserted
        rw [latestInsertion?_cons, if_pos rfl] at inserted
        cases inserted
      · exact counted

theorem recalls_new (settings : Settings) (now : Nat) :
    Recalls settings now [] (new settings) where
  settings := rfl
  different := List.nodup_nil
  bounded := Nat.zero_le _
  latest _ _ member := nomatch member
  ordered := .nil
  kept _ _ inserted := nomatch inserted
  counted := rfl

/-! ## Runs of calls -/

theorem Recalls.run {calls : List TimedCall} {last : Nat}
    (recalls : Recalls settings now history cache)
    (ordered : (now :: (calls.map TimedCall.time ++ [last])).Pairwise (· ≤ ·)) :
    Recalls settings last (cache.run history calls).1 (cache.run history calls).2 := by
  induction calls generalizing now history cache with
  | nil => exact recalls.mono ((List.pairwise_cons.mp ordered).1 last List.mem_cons_self)
  | cons timed rest ih =>
      obtain ⟨first, later⟩ := List.pairwise_cons.mp ordered
      exact ih (recalls.mono (first timed.time List.mem_cons_self)).perform later

theorem countP_run (calls : List TimedCall) (history : List Record) (cache : AttachmentCache) :
    (cache.run history calls).1.countP (fun record => record.call.wanted?.isSome) =
      calls.countP (fun timed => timed.call.wanted?.isSome) +
        history.countP fun record => record.call.wanted?.isSome := by
  induction calls generalizing history cache with
  | nil => exact (Nat.zero_add _).symm
  | cons timed rest ih =>
      rw [AttachmentCache.run, ih, List.countP_cons, List.countP_cons, Nat.add_right_comm,
        Nat.add_assoc]

/-- Whether calls come one after the other. -/
def InOrder (calls : List TimedCall) : Prop := (calls.map TimedCall.time).Pairwise (· ≤ ·)

/-- What a cache with some settings owes to a call, after other calls with a history. -/
structure Owes (settings : Settings) (calls : List TimedCall) (history : List Record)
    (cache : AttachmentCache) (timed : TimedCall) : Prop where
  /-- What is fetched was inserted last and is within its time. -/
  sound : ∀ id payload, timed.call.wanted? = some id →
    (cache.perform timed).1 = .fetched (some payload) →
      ∃ time, latestInsertion? id history = some ⟨payload, time⟩ ∧
        timed.time - time < settings.lifetime * 1000
  /-- What was inserted last and is within its time is fetched unless too many others have come. -/
  complete : ∀ id payload time, timed.call.wanted? = some id →
    latestInsertion? id history = some ⟨payload, time⟩ →
      timed.time - time < settings.lifetime * 1000 →
      (othersSince id history).card < max settings.capacity 1 →
        (cache.perform timed).1 = .fetched (some payload)
  bounded : cache.size ≤ max settings.capacity 1
  untouched : ∀ id payload, timed.call = .store id payload →
    (cache.perform timed).1 ≠ .stored (.ok .inserted) → (cache.perform timed).2 = cache
  counted : cache.counters.hits + cache.counters.misses =
    calls.countP fun timed => timed.call.wanted?.isSome

/-- A cache fetches just what its history says, as far as it has room. -/
theorem owes_of_inOrder (settings : Settings) {calls : List TimedCall} {timed : TimedCall}
    (ordered : InOrder (calls ++ [timed])) :
    Owes settings calls ((new settings).run [] calls).1 ((new settings).run [] calls).2 timed := by
  have begun : (0 :: (calls.map TimedCall.time ++ [timed.time])).Pairwise (· ≤ ·) := by
    refine List.pairwise_cons.mpr ⟨fun _ _ => Nat.zero_le _, ?_⟩
    simpa [InOrder] using ordered
  have recalls := (recalls_new settings 0).run begun
  have count := countP_run calls [] (new settings)
  generalize ((new settings).run [] calls).1 = history at recalls count ⊢
  generalize ((new settings).run [] calls).2 = cache at recalls ⊢
  have room : cache.capacity = max settings.capacity 1 := by
    rw [AttachmentCache.capacity, recalls.settings]
  have live (entry : Entry) : cache.isLive timed.time entry = true ↔
      timed.time - entry.storedAt < settings.lifetime * 1000 := by
    rw [isLive, recalls.settings, decide_eq_true_iff]
  have fetches (id : String) (payload : Payload) (wanted : timed.call.wanted? = some id) :
      (cache.perform timed).1 = .fetched (some payload) ↔
        ∃ time, (id, ⟨payload, time⟩) ∈ cache.entries ∧
          timed.time - time < settings.lifetime * 1000 := by
    rw [perform_of_wanted wanted, Answer.fetched.injEq, fetch_eq_some]
    simp only [peek?_eq_some recalls.different, live]
  constructor
  · intro id payload wanted fetched
    obtain ⟨time, member, within⟩ := (fetches id payload wanted).mp fetched
    exact ⟨time, recalls.latest id _ member, within⟩
  · intro id payload time wanted inserted within few
    have member := recalls.kept id _ inserted ((live ⟨payload, time⟩).mpr within) (room ▸ few)
    exact (fetches id payload wanted).mpr ⟨time, member, within⟩
  · exact room ▸ recalls.bounded
  · intro id payload call unstored
    cases cache.performCase timed with
    | refused _ effect _ => rw [effect]
    | inserted _ _ effect =>
        rw [effect] at unstored
        exact (unstored rfl).elim
    | hit wanted | expired wanted | absent wanted =>
        rw [call] at wanted
        cases wanted
    | cleared clears =>
        rw [call] at clears
        cases clears
  · rw [recalls.counted, count]
    rfl

/-- With room for two, the third image drives out the one that was not fetched; the first is there
until its second is over, also when it is stored again in vain. -/
theorem owes_of_inOrder_third_stored :
    let settings : Settings := ⟨2, 1⟩
    let image : Payload := ⟨"AAAA", "image/png", .base64⟩
    let other : Payload := ⟨"http://images.test/b", "", .url⟩
    let calls : List TimedCall :=
      [⟨0, .store "r#1" image⟩, ⟨100, .store "r#2" other⟩, ⟨200, .lookup "r" 1⟩,
        ⟨300, .store "s#1" other⟩, ⟨400, .get "r#2"⟩, ⟨500, .store "r#1" other⟩]
    let timed : TimedCall := ⟨999, .get "r#1"⟩
    let after := (new settings).run [] calls
    InOrder (calls ++ [timed]) ∧ Owes settings calls after.1 after.2 timed ∧
      (after.2.perform timed).1 = .fetched (some image) ∧
      after.1.map Record.answer =
        [.stored (.ok .alreadyPresent), .fetched none, .stored (.ok .inserted),
          .fetched (some image), .stored (.ok .inserted), .stored (.ok .inserted)] ∧
      after.2.counters = ⟨1, 1, 0⟩ := by
  intro settings image other calls timed after
  have ordered : InOrder (calls ++ [timed]) := by simp [InOrder, calls, timed]
  have owes : Owes settings calls after.1 after.2 timed := owes_of_inOrder settings ordered
  have inserted : latestInsertion? "r#1" after.1 = some ⟨image, 0⟩ := by decide +kernel
  have within : timed.time - 0 < settings.lifetime * 1000 := by decide
  have few : (othersSince "r#1" after.1).card < max settings.capacity 1 := by decide +kernel
  refine ⟨ordered, owes, owes.complete "r#1" image 0 rfl inserted within few, ?_, ?_⟩
  · decide +kernel
  · decide +kernel

end ChatGateway.AttachmentCache
