import ChatGateway.Proofs.Stream.Ending
import ChatGateway.Proofs.Stream.Portions

/-!
# Frames that do not fit

A reader holds what no blank line has ended yet, up to a limit.  A portion of bytes may complete
frames and leave more than the limit after them.  The caller is owed the events of the frames first
and the failure after them, but when the limit is passed the reader gives no frames at all.
-/

namespace ChatGateway

namespace FrameReader

/-! ## What bytes complete and what they leave -/

/-- The stretches that bytes complete. -/
def completed (reader : FrameReader) (bytes : List UInt8) : List (List UInt8) :=
  (stretches (reader.held ++ counted bytes)).dropLast

/-- The stretch that bytes leave unfinished. -/
def leftover (reader : FrameReader) (bytes : List UInt8) : List UInt8 :=
  (stretches (reader.held ++ counted bytes)).getLast (stretches_ne_nil _)

variable {reader : FrameReader}

theorem stretches_eq_completed_append (reader : FrameReader) (bytes : List UInt8) :
    stretches (reader.held ++ counted bytes) = reader.completed bytes ++ [reader.leftover bytes] :=
  (List.dropLast_concat_getLast _).symm

theorem completed_eq {bytes last : List UInt8} {complete : List (List UInt8)}
    (whole : stretches (reader.held ++ counted bytes) = complete ++ [last]) :
    reader.completed bytes = complete ∧ reader.leftover bytes = last := by
  rw [stretches_eq_completed_append] at whole
  have parts := List.append_inj' whole rfl
  exact ⟨parts.1, List.singleton_inj.mp parts.2⟩

/-- Bytes without a line feed are one stretch. -/
theorem stretches_of_not_mem {bytes : List UInt8} (absent : 10 ∉ bytes) :
    stretches bytes = [bytes] := by
  induction bytes with
  | nil => rfl
  | cons byte rest ih =>
      rw [List.mem_cons, not_or] at absent
      have other : ¬(byte = 10 ∧ rest.head? = some 10) := fun blank => absent.1 blank.1.symm
      rw [stretches_of_not_blank other, ih absent.2, lead]

/-- The last stretch stands after a blank line, if there is one. -/
theorem exists_append_of_stretches {bytes last : List UInt8} {complete : List (List UInt8)}
    (some_complete : complete ≠ []) (whole : stretches bytes = complete ++ [last]) :
    ∃ front, bytes = front ++ last ∧ stretches front = complete ++ [[]] := by
  fun_induction stretches bytes generalizing complete with
  | case1 | case2 =>
      cases complete with
      | nil => exact absurd rfl some_complete
      | cons => simp at whole
  | case3 first second rest blank ih =>
      obtain ⟨rfl, rfl⟩ := blank
      cases complete with
      | nil => exact absurd rfl some_complete
      | cons stretch complete =>
          obtain ⟨rfl, later⟩ := List.cons.inj whole
          cases complete with
          | nil =>
              have same := eq_of_stretches_eq_singleton later
              exact ⟨[10, 10], by rw [same]; rfl, rfl⟩
          | cons =>
              obtain ⟨front, split, cut⟩ := ih (List.cons_ne_nil _ _) later
              exact ⟨10 :: 10 :: front, by rw [split]; rfl, by rw [stretches_blank, cut]; rfl⟩
  | case4 first second rest other ih =>
      obtain ⟨following, others, found⟩ := exists_stretches_cons (second :: rest)
      rw [found, lead] at whole
      cases complete with
      | nil => exact absurd rfl some_complete
      | cons stretch complete =>
          obtain ⟨rfl, rfl⟩ := List.cons.inj whole
          obtain ⟨front, split, cut⟩ := ih (List.cons_ne_nil following complete) found
          -- the front is not empty, since a blank line ends it
          cases front with
          | nil => simp [stretches] at cut
          | cons next front =>
              obtain ⟨rfl, rfl⟩ := List.cons.inj split
              have unblank : ¬(first = 10 ∧ (second :: front).head? = some 10) :=
                fun blank => other ⟨blank.1, Option.some.inj blank.2⟩
              exact ⟨first :: second :: front, rfl, by
                rw [stretches_of_not_blank unblank, cut]
                rfl⟩

/-- Bytes that complete a frame can be cut behind the last frame that they complete. -/
theorem exists_cut_of_completed (waits : reader.Waits) {bytes : List UInt8}
    (some_complete : reader.completed bytes ≠ []) :
    ∃ first second, bytes = first ++ second ∧
      stretches (reader.held ++ counted first) = reader.completed bytes ++ [[]] ∧
      counted second = reader.leftover bytes := by
  obtain ⟨front, split, cut⟩ := exists_append_of_stretches some_complete
    (stretches_eq_completed_append reader bytes)
  rcases List.append_eq_append_iff.mp split with ⟨middle, longer, rest⟩ | ⟨more, longer, -⟩
  · obtain ⟨first, second, rfl, before, after⟩ := List.filter_eq_append_iff.mp rest
    exact ⟨first, second, rfl, by rw [counted, before, ← longer, cut], after⟩
  · -- what is held has no blank line, so it does not reach behind one
    have single := waits.single
    rw [longer, stretches_append cut] at single
    have counts := congrArg List.length single
    rw [List.length_append, List.length_singleton] at counts
    have one := List.length_pos_iff.mpr some_complete
    have another := List.length_pos_iff.mpr (stretches_ne_nil ([] ++ more))
    omega

/-- The reader that has been given bytes. -/
def after (reader : FrameReader) (bytes : List UInt8) : FrameReader :=
  ⟨reader.leftover bytes, (reader.leftover bytes).length - 1⟩

theorem waits_after (reader : FrameReader) (bytes : List UInt8) : (reader.after bytes).Waits :=
  ⟨stretches_last (stretches_eq_completed_append reader bytes), rfl⟩

theorem push_of_fits (waits : reader.Waits) {bytes : List UInt8}
    (fits : (reader.leftover bytes).length ≤ capacity) :
    reader.push bytes =
      (some ((reader.completed bytes).filterMap Frame.ofBytes?), reader.after bytes) := by
  rw [push_eq waits (stretches_eq_completed_append reader bytes), if_neg (Nat.not_lt.mpr fits)]
  rfl

theorem push_of_overflows (waits : reader.Waits) {bytes : List UInt8}
    (overflows : capacity < (reader.leftover bytes).length) :
    reader.push bytes = (none, reader.after bytes) := by
  rw [push_eq waits (stretches_eq_completed_append reader bytes), if_pos overflows]
  rfl

end FrameReader

theorem Signal.closing?_of_error {signal : Signal} {body : ErrorBody}
    (carried : signal.event? = some (.error body)) : signal.closing? = some none := by
  cases signal with
  | chunk chunk =>
      cases chunk with
      | done => cases carried
      | event name data => simp only [closing?, carried]
  | failure cause => rfl
  | closure => cases carried

namespace Delivery

/-! ## Runs that send nothing or begin with a failure -/

variable {delivery : Delivery}

theorem take_of_sent_nil {signal : Signal} (running : delivery.stopped = false)
    (nothing : (delivery.take signal).1 = []) : delivery.take signal = ([], delivery) := by
  cases closes : signal.closing? with
  | none =>
      simp only [take, closes] at nothing ⊢
      cases carried : signal.event? with
      | none => rfl
      | some event =>
          rw [carried, relay] at nothing
          split at nothing
          · cases nothing
          · rename_i refused
            rw [relay, if_neg refused]
  | some reason =>
      obtain ⟨fields, -, closing⟩ := isClosing_close running reason
      rw [take_of_closing closes, closing] at nothing
      simp at nothing

/-- A delivery that has sent nothing is as it was. -/
theorem run_of_sent_nil {signals : List Signal} (running : delivery.stopped = false)
    (nothing : (delivery.run signals).1 = []) : (delivery.run signals).2 = delivery := by
  induction signals with
  | nil => rfl
  | cons signal rest ih =>
      rw [run_cons running, List.append_eq_nil_iff] at nothing
      have first := take_of_sent_nil running nothing.1
      rw [first] at nothing
      rw [run_cons running, first]
      exact ih nothing.2

theorem take_of_head_error {signal : Signal} {body : ErrorBody} (running : delivery.stopped = false)
    (failed : (delivery.take signal).1.head? = some (.error body)) :
    delivery.take signal = (.error body :: (delivery.close none).1, (delivery.close none).2) := by
  have carried : signal.event? = some (.error body) := by
    cases closes : signal.closing? with
    | none =>
        simp only [take, closes, relay] at failed
        cases carried : signal.event? with
        | none => simp [carried] at failed
        | some event =>
            rw [carried] at failed
            dsimp only at failed
            split at failed
            · exact congrArg some (Option.some.inj failed)
            · cases failed
    | some reason =>
        rw [take_of_closing closes] at failed
        rcases Signal.event?_of_closing closes with none | ⟨other, told⟩
        · rw [none] at failed
          exact absurd (List.mem_of_head? failed)
            ((isClosing_close running reason).not_mem_error body)
        · rw [told] at failed ⊢
          exact failed
  rw [take_of_closing (Signal.closing?_of_error carried), carried]
  rfl

/-- A delivery that begins with a failure sends nothing after it but the closing. -/
theorem run_of_head_error {signals : List Signal} {body : ErrorBody}
    (running : delivery.stopped = false)
    (failed : (delivery.run signals).1.head? = some (.error body)) :
    delivery.run signals = (.error body :: (delivery.close none).1, (delivery.close none).2) := by
  induction signals with
  | nil => cases failed
  | cons signal rest ih =>
      rw [run_cons running] at failed ⊢
      cases sent : (delivery.take signal).1 with
      | nil =>
          have first := take_of_sent_nil running sent
          rw [first] at failed ⊢
          exact ih failed
      | cons event more =>
          have first : (delivery.take signal).1.head? = some (.error body) := by
            rw [sent] at failed ⊢
            exact failed
          rw [← sent, take_of_head_error running first,
            run_of_stopped (stopped_close delivery none), List.append_nil]

end Delivery

namespace Pump

open FrameReader

/-! ## What the caller is owed -/

/-- Sends the events of frames, up to the end. -/
def sendFrames (pump : Pump) (frames : List Frame) : List Event × Pump :=
  let (sent, pump) := takeFrames [] pump frames
  (sent.reverse.flatten, pump)

/-- The frames that bytes complete. -/
def framesOf (pump : Pump) (bytes : List UInt8) : List Frame :=
  (pump.reader.completed bytes).filterMap Frame.ofBytes?

/-- What the caller is owed for bytes: the events of the frames that they complete, and after them
the failure if what is left does not fit and the message is not over. -/
def owed (pump : Pump) (bytes : List UInt8) : List Event :=
  let (sent, after) := pump.sendFrames (pump.framesOf bytes)
  if (pump.reader.leftover bytes).length ≤ capacity ∨ after.isDone then sent
  else sent ++ (after.fail oversized).1

/-- Takes in portions of bytes, up to the end. -/
def takePortions (pump : Pump) : List (List UInt8) → List Event
  | [] => []
  | portion :: rest =>
      if pump.isDone then []
      else (pump.takeBytes portion).1 ++ (pump.takeBytes portion).2.takePortions rest

variable {pump : Pump} {bytes : List UInt8}

theorem delivers_sendFrames (pump : Pump) (frames : List Frame) :
    Delivers pump.delivery (pump.upstream.emitAll (frames.filterMap chunkOf?)).1
      (pump.upstream.emitAll (frames.filterMap chunkOf?)).2 (pump.sendFrames frames) := by
  obtain ⟨batches, joined, delivers⟩ := delivers_takeFrames [] pump frames
  rw [List.append_nil] at joined
  rw [← joined] at delivers
  exact delivers

/-- A pump with another reader of frames. -/
def withReader (pump : Pump) (reader : FrameReader) : Pump := { pump with reader }

/-- What frames make a pump send does not depend on what its reader holds. -/
theorem sendFrames_withReader (pump : Pump) (reader : FrameReader) (frames : List Frame) :
    ((pump.withReader reader).sendFrames frames).1 = (pump.sendFrames frames).1 ∧
      ((pump.withReader reader).sendFrames frames).2.delivery =
        (pump.sendFrames frames).2.delivery := by
  have others := (delivers_sendFrames (pump.withReader reader) frames).ran
  have same : (pump.withReader reader).upstream = pump.upstream.withReader reader := rfl
  rw [same, Upstream.emitAll_withReader] at others
  exact Prod.mk.inj (others.symm.trans (delivers_sendFrames pump frames).ran)

/-- Frames leave the reader as it is. -/
theorem reader_sendFrames {reader : FrameReader} {frames : List Frame}
    (goesOn : ((pump.withReader reader).sendFrames frames).2.isDone = false) :
    ((pump.withReader reader).sendFrames frames).2.reader = reader := by
  have kept := (delivers_sendFrames (pump.withReader reader) frames).kept goesOn
  have same : (pump.withReader reader).upstream = pump.upstream.withReader reader := rfl
  rw [same, Upstream.emitAll_withReader] at kept
  exact congrArg Upstream.reader kept

theorem takeBytes_of_fits (waits : pump.reader.Waits)
    (fits : (pump.reader.leftover bytes).length ≤ capacity) :
    pump.takeBytes bytes =
      (pump.withReader (pump.reader.after bytes)).sendFrames (pump.framesOf bytes) := by
  rw [takeBytes, push_of_fits waits fits]
  rfl

theorem takeBytes_of_overflows (waits : pump.reader.Waits)
    (overflows : capacity < (pump.reader.leftover bytes).length) :
    (pump.takeBytes bytes).1 = .error oversized.errorBody :: (pump.delivery.close none).1 := by
  rw [takeBytes, push_of_overflows waits overflows]
  rfl

theorem takeBytes_eq_of_fits (waits : pump.reader.Waits)
    (fits : (pump.reader.leftover bytes).length ≤ capacity) :
    (pump.takeBytes bytes).1 = pump.owed bytes := by
  rw [takeBytes_of_fits waits fits, (sendFrames_withReader pump _ _).1, owed]
  simp [fits]

/-- Where the limit is passed, the caller is sent what it is owed if and only if the frames make the
pump send nothing, or nothing but the same failure. -/
theorem takeBytes_eq_iff_of_overflows (running : pump.isDone = false) (waits : pump.reader.Waits)
    (overflows : capacity < (pump.reader.leftover bytes).length) :
    (pump.takeBytes bytes).1 = pump.owed bytes ↔
      ∀ event ∈ (pump.sendFrames (pump.framesOf bytes)).1.head?,
        event = .error oversized.errorBody := by
  have unstopped : pump.delivery.stopped = false := running
  have ran := (delivers_sendFrames pump (pump.framesOf bytes)).ran
  rw [takeBytes_of_overflows waits overflows, owed]
  generalize pump.sendFrames (pump.framesOf bytes) = result at ran
  obtain ⟨sent, after⟩ := result
  dsimp only at ran ⊢
  cases sent with
  | nil =>
      have same := Delivery.run_of_sent_nil unstopped (congrArg Prod.fst ran)
      rw [ran] at same
      have goesOn : after.isDone = false := (congrArg Delivery.stopped same).trans unstopped
      have both : ¬((pump.reader.leftover bytes).length ≤ capacity ∨ after.isDone = true) := by
        simp [goesOn, overflows]
      rw [if_neg both, List.nil_append, ← same]
      simp [fail, close]
  | cons event more =>
      rw [List.head?_cons]
      constructor
      · intro equal other first
        cases first
        split at equal
        · exact (List.cons.inj equal).1.symm
        · exact (List.cons.inj equal).1.symm
      · intro failed
        have first := failed event rfl
        have told : (pump.delivery.run (pump.upstream.emitAll
            ((pump.framesOf bytes).filterMap chunkOf?)).1).1.head? =
              some (.error oversized.errorBody) := by
          rw [ran, first]
          rfl
        have whole := Delivery.run_of_head_error unstopped told
        rw [ran] at whole
        obtain ⟨all, done⟩ := Prod.mk.inj whole
        have ended : after.isDone = true := by
          rw [isDone, done]
          exact Delivery.stopped_close pump.delivery none
        rw [if_pos (.inr ended), all]

/-- Cut behind the last frame that they complete, bytes make the caller be sent what it is owed. -/
theorem takePortions_eq_owed (running : pump.isDone = false) (waits : pump.reader.Waits)
    (overflows : capacity < (pump.reader.leftover bytes).length)
    (some_complete : pump.reader.completed bytes ≠ []) :
    ∃ first second, bytes = first ++ second ∧
      pump.takePortions [first, second] = pump.owed bytes := by
  obtain ⟨first, second, split, complete, rest⟩ := exists_cut_of_completed waits some_complete
  refine ⟨first, second, split, ?_⟩
  obtain ⟨same, nothing⟩ := completed_eq complete
  have fits : (pump.reader.leftover first).length ≤ capacity := by
    rw [nothing]
    exact Nat.zero_le _
  have taken := takeBytes_of_fits waits fits
  have frames : pump.framesOf first = pump.framesOf bytes := by rw [framesOf, same, framesOf]
  rw [frames] at taken
  obtain ⟨sent, delivery⟩ :=
    sendFrames_withReader pump (pump.reader.after first) (pump.framesOf bytes)
  rw [← taken] at sent delivery
  have done : (pump.takeBytes first).2.isDone =
      (pump.sendFrames (pump.framesOf bytes)).2.isDone := congrArg Delivery.stopped delivery
  have large : ¬(pump.reader.leftover bytes).length ≤ capacity := Nat.not_le.mpr overflows
  cases ended : (pump.sendFrames (pump.framesOf bytes)).2.isDone with
  | true => simp [takePortions, running, done, ended, sent, owed]
  | false =>
      have reader : (pump.takeBytes first).2.reader = pump.reader.after first := by
        rw [taken]
        apply reader_sendFrames
        rw [← taken, done, ended]
      have alone : stretches ((pump.reader.after first).held ++ counted second) =
          [] ++ [pump.reader.leftover bytes] := by
        have held : (pump.reader.after first).held = [] := nothing
        rw [held, rest]
        exact stretches_last (stretches_eq_completed_append pump.reader bytes)
      have still : (pump.takeBytes first).2.reader.Waits := by
        rw [reader]
        exact waits_after pump.reader first
      have passes : capacity < ((pump.takeBytes first).2.reader.leftover second).length := by
        rw [reader, (completed_eq alone).2]
        exact overflows
      have failed := takeBytes_of_overflows still passes
      rw [delivery] at failed
      simp [takePortions, running, done, ended, sent, failed, owed, large, fail, close]

/-- The caller is sent what it is owed for bytes if and only if what they leave fits, or the frames
that they complete make the pump send nothing, or nothing but the same failure.  Bytes can always be
cut into portions for which the caller is sent what it is owed. -/
theorem takeBytes_eq_owed_iff (running : pump.isDone = false) (waits : pump.reader.Waits)
    (bytes : List UInt8) :
    ((pump.takeBytes bytes).1 = pump.owed bytes ↔
      (pump.reader.leftover bytes).length ≤ capacity ∨
        ∀ event ∈ (pump.sendFrames (pump.framesOf bytes)).1.head?,
          event = .error oversized.errorBody) ∧
      ∃ portions, portions.flatten = bytes ∧ pump.takePortions portions = pump.owed bytes := by
  have iff : (pump.takeBytes bytes).1 = pump.owed bytes ↔
      (pump.reader.leftover bytes).length ≤ capacity ∨
        ∀ event ∈ (pump.sendFrames (pump.framesOf bytes)).1.head?,
          event = .error oversized.errorBody := by
    rcases Nat.lt_or_ge capacity (pump.reader.leftover bytes).length with overflows | fits
    · rw [takeBytes_eq_iff_of_overflows running waits overflows, or_iff_right]
      exact Nat.not_le.mpr overflows
    · exact iff_of_true (takeBytes_eq_of_fits waits fits) (.inl fits)
  refine ⟨iff, ?_⟩
  by_cases at_once : (pump.takeBytes bytes).1 = pump.owed bytes
  · exact ⟨[bytes], List.append_nil bytes, by simp [takePortions, running, at_once]⟩
  · rw [iff, not_or] at at_once
    have some_complete : pump.reader.completed bytes ≠ [] := by
      intro none
      apply at_once.2
      simp [framesOf, none, sendFrames, takeFrames]
    obtain ⟨first, second, rfl, owed⟩ :=
      takePortions_eq_owed running waits (Nat.not_le.mp at_once.1) some_complete
    exact ⟨[first, second], by simp, owed⟩

/-- A frame, and after it a line that does not fit. -/
theorem takeBytes_eq_owed_iff_line :
    let context : Context := ⟨⟨1⟩, "main", "small", true, []⟩
    let pump := Pump.new ⟨[.openai]⟩ context ⟨0⟩
    let bytes := "data: 1\n\n".toUTF8.toList ++ List.replicate (capacity + 1) 120
    pump.isDone = false ∧ pump.reader.Waits ∧
      ((pump.takeBytes bytes).1 = pump.owed bytes ↔
        (pump.reader.leftover bytes).length ≤ capacity ∨
          ∀ event ∈ (pump.sendFrames (pump.framesOf bytes)).1.head?,
            event = .error oversized.errorBody) ∧
      ∃ portions, portions.flatten = bytes ∧ pump.takePortions portions = pump.owed bytes :=
  ⟨rfl, waits_new, takeBytes_eq_owed_iff rfl waits_new _⟩

/-- An end that the provider has sent is lost with the line after it, and a failure told instead. -/
theorem takeBytes_loses_stop :
    let context : Context := ⟨⟨1⟩, "main", "small", true, []⟩
    let stop := "data: \x7b\"type\":\"message_stop\"\x7d\n\n".toUTF8.toList
    let pump := Pump.new ⟨[]⟩ context ⟨0⟩
    let bytes := stop ++ List.replicate (capacity + 1) 120
    (pump.owed bytes).map Event.name = ["message_stop"] ∧
      (pump.takeBytes bytes).1.map Event.name = ["error", "message_delta", "message_stop"] ∧
      (pump.takeBytes bytes).1 ≠ pump.owed bytes := by
  intro context stop pump bytes
  let frame := "data: \x7b\"type\":\"message_stop\"\x7d".toUTF8.toList
  let line : List UInt8 := List.replicate (capacity + 1) 120
  have whole : stretches (pump.reader.held ++ counted bytes) = [frame] ++ [line] := by
    have first : stretches (counted stop) = [frame] ++ [[]] := by decide +kernel
    have second : counted line = line := List.filter_replicate_of_pos (by decide)
    have single : stretches line = [line] :=
      stretches_of_not_mem fun member => absurd (List.eq_of_mem_replicate member) (by decide)
    have split : pump.reader.held ++ counted bytes = counted stop ++ line := by
      rw [← second, ← counted_append]
      rfl
    rw [split, stretches_append first, List.nil_append, single]
  obtain ⟨completed, leftover⟩ := completed_eq whole
  have large : capacity < (pump.reader.leftover bytes).length := by
    rw [leftover, List.length_replicate]
    exact Nat.lt_succ_self capacity
  have sent : (pump.sendFrames ([frame].filterMap Frame.ofBytes?)).1.map Event.name =
        ["message_stop"] ∧
      (pump.sendFrames ([frame].filterMap Frame.ofBytes?)).2.isDone = true := by decide +kernel
  have due : (pump.owed bytes).map Event.name = ["message_stop"] := by
    rw [owed, framesOf, completed]
    simp [sent]
  have told : (pump.takeBytes bytes).1.map Event.name =
      ["error", "message_delta", "message_stop"] := by
    rw [takeBytes_of_overflows waits_new large]
    rfl
  refine ⟨due, told, ?_⟩
  intro same
  rw [same, due] at told
  simp at told

end Pump

end ChatGateway
