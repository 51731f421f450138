import ChatGateway.Gateway.Task
import ChatGateway.Proofs.Resilience.Leases

/-!
# One attempt

An attempt calls a provider with one free key after the other until the provider answers.  No key is
called twice as long as keys that meet a rate limit are parked, and so an attempt ends after as many
calls as there are keys.
-/

namespace ChatGateway

/-- Whether a turn may be taken with these free keys. -/
def Turn.Leased (provider : String) (free : Finset Nat) (retries : Nat) : Turn → Prop
  | .calling call => call.lease.provider = provider ∧ call.lease.index ∈ free
  | .pausing _ attempt => attempt ≤ retries
  | _ => True

/-- How many calls may be made from a turn on, of so many retries with so many keys, of which so many
are free. -/
def Turn.callsLeft (retries keys free : Nat) : Turn → Nat
  | .calling call => free + keys * (retries - call.attempt)
  | .pausing _ attempt => keys * (retries + 1 - attempt)
  | _ => 0

namespace Task

/-! ## Steps -/

theorem afterFailure_leased (policy : RetryPolicy) (draw attempt : Nat) (failure : Failure)
    (provider : String) (free : Finset Nat) (keys : Nat) :
    (afterFailure policy draw attempt failure).Leased provider free policy.retries ∧
      (afterFailure policy draw attempt failure).callsLeft policy.retries keys free.card ≤
        keys * (policy.retries - attempt) := by
  rw [afterFailure]
  split
  · rename_i again
    have below := RetryPolicy.lt_retries_of_retriesAfter again
    exact ⟨below, by simp [Turn.callsLeft]⟩
  · exact ⟨trivial, Nat.zero_le _⟩

theorem not_calling_afterFailure (policy : RetryPolicy) (draw attempt : Nat) (failure : Failure)
    (call : ProviderCall) : afterFailure policy draw attempt failure ≠ .calling call := by
  rw [afterFailure]
  split <;> nofun

/-- A call that has been prepared has a lease on a free key. -/
theorem prepare_spec (task : Task) (attempt now : Nat) (ledger : Ledger) :
    Ledger.Keeps ledger (task.prepare attempt now ledger).2 ∧
      (task.prepare attempt now ledger).2.free now task.decision.provider =
        ledger.free now task.decision.provider ∧
      ∀ call, (task.prepare attempt now ledger).1 = .ok call →
        call.attempt = attempt ∧ call.lease.provider = task.decision.provider ∧
          call.lease.index ∈ ledger.free now task.decision.provider := by
  have kept := ledger.keeps_acquire now task.decision.provider
  have free := ledger.free_acquire now task.decision.provider
  rw [prepare]
  rcases acquired : ledger.acquire now task.decision.provider with ⟨outcome, after⟩
  rw [acquired] at kept free
  cases outcome with
  | error refusal => exact ⟨kept, free, nofun⟩
  | ok lease =>
      obtain ⟨own, member⟩ := Ledger.mem_free_of_acquire acquired
      dsimp only at kept free ⊢
      split
      · exact ⟨kept, free, nofun⟩
      · refine ⟨kept, free, ?_⟩
        rintro call ⟨⟩
        exact ⟨rfl, own, member⟩

/-- The turn after an attempt has begun calls with a free key, or pauses before the next attempt. -/
theorem begin_spec (task : Task) (draw attempt now keys : Nat) (ledger : Ledger) :
    let retries := ledger.settings.retry.retries
    let free := ledger.free now task.decision.provider
    let begun := task.begin draw attempt now ledger
    Ledger.Keeps ledger begun.2 ∧ begun.2.free now task.decision.provider = free ∧
      begun.1.Leased task.decision.provider free retries ∧
      begun.1.callsLeft retries keys free.card ≤ free.card + keys * (retries - attempt) := by
  obtain ⟨kept, same, leased⟩ := task.prepare_spec attempt now ledger
  rw [begin]
  rcases prepared : task.prepare attempt now ledger with ⟨outcome, after⟩
  rw [prepared] at kept same leased
  cases outcome with
  | ok call =>
      obtain ⟨number, own, member⟩ := leased call rfl
      exact ⟨kept, same, ⟨own, member⟩, by simp [Turn.callsLeft, number]⟩
  | error failure =>
      obtain ⟨paused, fewer⟩ := afterFailure_leased after.settings.retry draw attempt failure
        task.decision.provider (ledger.free now task.decision.provider) keys
      have settings : after.settings = ledger.settings := kept.settings
      rw [settings] at paused fewer
      simp only [settings]
      exact ⟨kept, same, paused, fewer.trans (Nat.le_add_left _ _)⟩

theorem takeAnswer_rotated {task : Task} {draw now : Nat} {call : ProviderCall} {failure : Failure}
    {ledger after : Ledger}
    (recorded : ledger.recordFailure now call.lease failure = (.rotated, after)) :
    task.takeAnswer draw call (.error failure) now ledger =
      task.begin draw call.attempt now after := by
  simp only [takeAnswer, recorded]

theorem takeAnswer_over {task : Task} {draw now : Nat} {call : ProviderCall} {failure : Failure}
    {ledger after : Ledger} {disposition : Disposition} (otherwise : disposition ≠ .rotated)
    (recorded : ledger.recordFailure now call.lease failure = (disposition, after)) :
    task.takeAnswer draw call (.error failure) now ledger =
      (afterFailure after.settings.retry draw call.attempt failure, after) := by
  cases disposition with
  | rotated => exact (otherwise rfl).elim
  | rateLimited | counted | ignored => simp only [takeAnswer, recorded]

variable {settings : ResilienceSettings} {keys : List Secret} {ledger : Ledger}

/-- After an answer, the attempt is over or goes on with the keys that are left. -/
theorem takeAnswer_spec (task : Task) (draw now : Nat) {call : ProviderCall}
    (serves : ledger.Serves settings task.decision.provider keys)
    (ordered : settings.keys.base ≤ settings.keys.limit)
    (lasting : keys.length < 2 ∨ 0 < settings.keys.base)
    (leased : (Turn.calling call).Leased task.decision.provider
      (ledger.free now task.decision.provider) settings.retry.retries)
    (answer : Except Failure Body) :
    let retries := settings.retry.retries
    let taken := task.takeAnswer draw call answer now ledger
    let left := taken.2.free now task.decision.provider
    Ledger.Keeps ledger taken.2 ∧ taken.1.Leased task.decision.provider left retries ∧
      (∀ next, taken.1 = .calling next →
        left = (ledger.free now task.decision.provider).erase call.lease.index) ∧
      1 + taken.1.callsLeft retries keys.length left.card ≤
        (Turn.calling call).callsLeft retries keys.length
          (ledger.free now task.decision.provider).card := by
  obtain ⟨own, member⟩ := leased
  have one : 1 ≤ (ledger.free now task.decision.provider).card :=
    Finset.card_pos.mpr ⟨_, member⟩
  cases answer with
  | ok body =>
      refine ⟨ledger.keeps_recordSuccess now call.lease, trivial, nofun, ?_⟩
      simp only [takeAnswer, Turn.callsLeft]
      omega
  | error failure =>
      have kept := ledger.keeps_recordFailure now call.lease failure
      rcases recorded : ledger.recordFailure now call.lease failure with ⟨disposition, after⟩
      rw [recorded] at kept
      have policy : after.settings = settings := kept.settings.trans serves.same
      by_cases rotated : disposition = .rotated
      · subst rotated
        rw [← own] at serves
        have erased := serves.free_of_rotated ordered lasting recorded
        rw [own] at erased
        have smaller := Finset.card_erase_of_mem member
        obtain ⟨more, same, paused, fewer⟩ :=
          task.begin_spec draw call.attempt now keys.length after
        rw [policy] at paused fewer
        rw [takeAnswer_rotated recorded]
        simp only [same]
        refine ⟨kept.trans more, paused, fun next _ => erased, ?_⟩
        rw [erased, smaller] at fewer ⊢
        simp only [Turn.callsLeft] at fewer ⊢
        omega
      · obtain ⟨paused, fewer⟩ := afterFailure_leased after.settings.retry draw call.attempt
          failure task.decision.provider (after.free now task.decision.provider) keys.length
        rw [takeAnswer_over rotated recorded]
        refine ⟨kept, policy ▸ paused,
          fun next same => (not_calling_afterFailure _ _ _ _ _ same).elim, ?_⟩
        simp only [policy] at fewer ⊢
        exact Nat.add_le_add one fewer

/-! ## Runs -/

/-- Goes on with an attempt whose calls are answered at once: the calls it makes, and where it stands
when it is over or no answer is left. -/
def answerAll (task : Task) (draw now : Nat) :
    Turn → Ledger → List (Except Failure Body) → List ProviderCall × Turn × Ledger
  | .calling call, ledger, [] => ([call], .calling call, ledger)
  | .calling call, ledger, answer :: rest =>
      let (turn, ledger) := task.takeAnswer draw call answer now ledger
      let (calls, ending) := task.answerAll draw now turn ledger rest
      (call :: calls, ending)
  | turn, ledger, _ => ([], turn, ledger)

/-- An attempt whose calls are answered at once. -/
def attempt (task : Task) (draw number now : Nat) (ledger : Ledger)
    (answers : List (Except Failure Body)) : List ProviderCall × Turn × Ledger :=
  let (turn, ledger) := task.begin draw number now ledger
  task.answerAll draw now turn ledger answers

/-- An attempt that still waits has made a call for each answer and one more. -/
theorem length_answerAll {task : Task} {draw now : Nat} {turn : Turn} {ledger : Ledger}
    {answers : List (Except Failure Body)} {call : ProviderCall}
    (waits : (task.answerAll draw now turn ledger answers).2.1 = .calling call) :
    (task.answerAll draw now turn ledger answers).1.length = answers.length + 1 := by
  induction answers generalizing turn ledger with
  | nil => cases turn <;> simp_all [answerAll]
  | cons answer rest ih =>
      cases turn with
      | calling first => simp only [answerAll] at waits ⊢; simp [ih waits]
      | pausing | answered | failed => simp [answerAll] at waits

/-- The keys that are called are different ones, and all were free. -/
theorem nodup_answerAll (task : Task) (draw now : Nat) {turn : Turn}
    (serves : ledger.Serves settings task.decision.provider keys)
    (ordered : settings.keys.base ≤ settings.keys.limit)
    (lasting : keys.length < 2 ∨ 0 < settings.keys.base)
    (leased : turn.Leased task.decision.provider (ledger.free now task.decision.provider)
      settings.retry.retries) (answers : List (Except Failure Body)) :
    let indices := (task.answerAll draw now turn ledger answers).1.map fun call => call.lease.index
    indices.Nodup ∧ ∀ index ∈ indices, index ∈ ledger.free now task.decision.provider := by
  induction answers generalizing turn ledger with
  | nil =>
      cases turn with
      | calling call => simpa [answerAll] using leased.2
      | pausing | answered | failed => simp [answerAll]
  | cons answer rest ih =>
      cases turn with
      | calling call =>
          obtain ⟨kept, next, erased, -⟩ :=
            task.takeAnswer_spec draw now serves ordered lasting leased answer
          obtain ⟨apart, among⟩ := ih (serves.of_keeps kept) next
          simp only [answerAll, List.map_cons, List.nodup_cons, List.forall_mem_cons]
          cases turn : (task.takeAnswer draw call answer now ledger).1 with
          | calling following =>
              rw [turn, erased following turn] at among
              rw [turn] at apart
              refine ⟨⟨?_, apart⟩, leased.2, ?_⟩
              · intro member
                exact (Finset.mem_erase.mp (among _ member)).1 rfl
              · intro index member
                exact (Finset.mem_erase.mp (among _ member)).2
          | pausing | answered | failed => simpa [answerAll] using leased.2
      | pausing | answered | failed => simp [answerAll]

/-- An attempt with so many keys and answers: it calls with different keys, and is over unless there
are fewer answers than keys. -/
structure Settles (keys answers : Nat) (run : List ProviderCall × Turn × Ledger) : Prop where
  nodup : (run.1.map fun call => call.lease.index).Nodup
  index_lt : ∀ call ∈ run.1, call.lease.index < keys
  length_le : run.1.length ≤ keys
  ends : keys ≤ answers → ∀ call, run.2.1 ≠ .calling call

theorem settles_attempt (task : Task)
    (serves : ledger.Serves settings task.decision.provider keys) (nonempty : keys ≠ [])
    (ordered : settings.keys.base ≤ settings.keys.limit)
    (lasting : keys.length < 2 ∨ 0 < settings.keys.base) (draw number now : Nat)
    (answers : List (Except Failure Body)) :
    Settles keys.length answers.length (task.attempt draw number now ledger answers) := by
  obtain ⟨kept, same, leased, -⟩ := task.begin_spec draw number now keys.length ledger
  rw [serves.same, ← same] at leased
  have begun := serves.of_keeps kept
  obtain ⟨nodup, among⟩ := task.nodup_answerAll draw now begun ordered lasting leased answers
  have whole : task.attempt draw number now ledger answers =
      task.answerAll draw now (task.begin draw number now ledger).1
        (task.begin draw number now ledger).2 answers := rfl
  rw [← whole] at nodup among
  have below : ∀ call ∈ (task.attempt draw number now ledger answers).1,
      call.lease.index < keys.length := by
    intro call member
    apply Finset.mem_range.mp
    exact begun.free_subset nonempty now (among _ (List.mem_map_of_mem member))
  have numbers : (task.attempt draw number now ledger answers).1.map (fun call => call.lease.index) ⊆
      List.range keys.length := by
    intro index member
    obtain ⟨call, made, rfl⟩ := List.mem_map.mp member
    exact List.mem_range.mpr (below call made)
  have few := (nodup.subperm numbers).length_le
  rw [List.length_map, List.length_range] at few
  refine ⟨nodup, below, few, ?_⟩
  intro enough call waits
  have more := length_answerAll (whole ▸ waits)
  rw [whole] at few
  omega

/-! ## Attempts without an end -/

/-- Whether the stages let a request pass, whatever the key. -/
def Passes (task : Task) : Prop :=
  ∀ key, ∃ outbound context,
    task.chain.applyRequest (task.outbound key) task.context = (.ok outbound, context)

theorem begin_of_insists {task : Task} (passes : task.Passes) (draw attempt : Nat) {now : Nat}
    (insists : ledger.Insists now task.decision.provider) :
    ∃ call after, task.begin draw attempt now ledger = (.calling call, after) ∧
      call.lease.provider = task.decision.provider ∧ call.lease.index = 0 ∧
      after.Insists now task.decision.provider := by
  obtain ⟨lease, after, acquired, own, first, still⟩ := insists.acquire
  obtain ⟨outbound, context, passed⟩ := passes lease.key
  exact ⟨⟨attempt, lease, context, outbound⟩, after,
    by simp only [begin, prepare, acquired, passed], own, first, still⟩

/-- One rate limit after the other, an attempt calls with its first key. -/
theorem answerAll_of_insists {task : Task} (passes : task.Passes) (draw : Nat) {now : Nat}
    {failure : Failure} (limited : failure.isRateLimit = true) (count : Nat) {call : ProviderCall}
    (own : call.lease.provider = task.decision.provider) (first : call.lease.index = 0)
    (insists : ledger.Insists now task.decision.provider) :
    let run := task.answerAll draw now (.calling call) ledger (.replicate count (.error failure))
    run.1.length = count + 1 ∧ ∀ made ∈ run.1, made.lease.index = 0 := by
  induction count generalizing call ledger with
  | zero => simp [answerAll, first]
  | succ count ih =>
      rw [← own] at insists
      obtain ⟨parked, recorded, again⟩ := insists.recordFailure limited
      rw [own] at again
      obtain ⟨next, after, begun, nextOwn, nextFirst, still⟩ :=
        begin_of_insists passes draw call.attempt again
      obtain ⟨length, all⟩ := ih nextOwn nextFirst still
      simp only [List.replicate_succ, answerAll, takeAnswer_rotated recorded, begun,
        List.length_cons, List.forall_mem_cons]
      exact ⟨by rw [length], first, all⟩

theorem attempt_of_insists {task : Task} (passes : task.Passes) (draw number : Nat) {now : Nat}
    {failure : Failure} (limited : failure.isRateLimit = true) (count : Nat)
    (insists : ledger.Insists now task.decision.provider) :
    let run := task.attempt draw number now ledger (.replicate count (.error failure))
    run.1.length = count + 1 ∧ ∀ made ∈ run.1, made.lease.index = 0 := by
  obtain ⟨call, after, begun, own, first, still⟩ :=
    begin_of_insists passes draw number insists
  simp only [Task.attempt, begun]
  exact answerAll_of_insists passes draw limited count own first still

end Task

end ChatGateway
