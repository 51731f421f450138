import ChatGateway.Proofs.Stream.Signals
import ChatGateway.Proofs.Stream.Stretches

/-!
# Streams in any portions

What a stream delivers depends on the bytes of the provider and on how its stream ends, and not on
the portions in which the bytes arrive or on the time between them.  That holds as long as no frame
is too large to be held, since frames that are complete are lost with one that is not.
-/

namespace ChatGateway

namespace BodyPart

/-- What parts of a body amount to: their bytes, and the failure after which nothing arrives. -/
def content : List BodyPart → List UInt8 × Option Failure
  | [] => ([], none)
  | bytes portion :: rest => (portion ++ (content rest).1, (content rest).2)
  | failure cause :: _ => ([], some cause)
  | delay _ :: rest => content rest

/-- A body that arrives in one portion. -/
def atOnce (portion : List UInt8) (ending : Option Failure) : List BodyPart :=
  bytes portion :: ending.toList.map failure

end BodyPart

namespace FrameReader

/-- Whether each stretch between blank lines can be held. -/
def Short (bytes : List UInt8) : Prop :=
  ∀ stretch ∈ stretches bytes, stretch.length < capacity

instance (bytes : List UInt8) : Decidable (Short bytes) :=
  inferInstanceAs (Decidable (∀ stretch ∈ stretches bytes, stretch.length < capacity))

/-- A stretch that can be held when it is complete can be held before. -/
theorem length_le_of_short {bytes more last : List UInt8} {complete : List (List UInt8)}
    (whole : stretches bytes = complete ++ [last]) (short : Short (bytes ++ more)) :
    last.length ≤ capacity := by
  obtain ⟨stretch, others, found, longer⟩ :=
    exists_stretch_of_single (stretches_last whole) more
  have member : stretch ∈ stretches (bytes ++ more) := by
    rw [stretches_append whole, found]
    simp
  have fits := short stretch member
  omega

variable {reader : FrameReader}

/-- Two portions give the frames that they give as one. -/
theorem push_append (waits : reader.Waits) {first second : List UInt8}
    (short : Short (reader.held ++ counted (first ++ second))) :
    ∃ earlier later middle last,
      reader.push first = (some earlier, middle) ∧
        middle.push second = (some later, last) ∧
        reader.push (first ++ second) = (some (earlier ++ later), last) ∧
        Short (middle.held ++ counted second) := by
  rw [counted_append, ← List.append_assoc] at short
  obtain ⟨complete, held, cut⟩ := exists_stretches (reader.held ++ counted first)
  have middle : reader.push first =
      (some (complete.filterMap Frame.ofBytes?), ⟨held, held.length - 1⟩) := by
    rw [push_eq waits cut, if_neg (Nat.not_lt.mpr (length_le_of_short cut short))]
  have still : Waits ⟨held, held.length - 1⟩ := ⟨stretches_last cut, rfl⟩
  obtain ⟨more, last, goesOn⟩ := exists_stretches (held ++ counted second)
  have whole : stretches (reader.held ++ counted first ++ counted second) =
      (complete ++ more) ++ [last] := by
    rw [stretches_append cut, goesOn, List.append_assoc]
  have fits : last.length ≤ capacity :=
    Nat.le_of_lt (short last (by rw [whole]; simp))
  refine ⟨_, more.filterMap Frame.ofBytes?, _, ⟨last, last.length - 1⟩, middle, ?_, ?_, ?_⟩
  · rw [push_eq still goesOn, if_neg (Nat.not_lt.mpr fits)]
  · rw [List.append_assoc, ← counted_append] at whole
    rw [push_eq waits whole, if_neg (Nat.not_lt.mpr fits), List.filterMap_append]
  · intro stretch member
    apply short stretch
    rw [stretches_append cut]
    exact List.mem_append_right _ member

/-- An empty portion changes nothing. -/
theorem push_nil (waits : reader.Waits) (fits : reader.held.length ≤ capacity) :
    reader.push [] = (some [], reader) := by
  have whole : stretches (reader.held ++ counted []) = [] ++ [reader.held] := by
    rw [counted_nil, List.append_nil, waits.single]
    rfl
  rw [push_eq waits whole, if_neg (Nat.not_lt.mpr fits), ← waits.scanned]
  rfl

end FrameReader

namespace Upstream

variable {upstream : Upstream}

/-- The provider's side with another reader of frames. -/
def withReader (upstream : Upstream) (reader : FrameReader) : Upstream := { upstream with reader }

@[simp] theorem withReader_withReader (upstream : Upstream) (first second : FrameReader) :
    (upstream.withReader first).withReader second = upstream.withReader second := rfl

/-- The chain works on without the reader of frames. -/
theorem emit_withReader (upstream : Upstream) (reader : FrameReader) (chunk : Chunk) :
    (upstream.withReader reader).emit chunk =
      ((upstream.emit chunk).1, (upstream.emit chunk).2.withReader reader) := by
  simp only [emit, withReader]
  split <;> rfl

theorem emitAll_withReader (upstream : Upstream) (reader : FrameReader) (chunks : List Chunk) :
    (upstream.withReader reader).emitAll chunks =
      ((upstream.emitAll chunks).1, (upstream.emitAll chunks).2.withReader reader) := by
  induction chunks generalizing upstream with
  | nil => rfl
  | cons chunk rest ih => simp only [emitAll, emit_withReader, ih]

theorem emitBytes_of_push {bytes : List UInt8} {frames : List Frame} {reader : FrameReader}
    (pushed : upstream.reader.push bytes = (some frames, reader)) :
    upstream.emitBytes bytes =
      ((upstream.emitAll (frames.filterMap Pump.chunkOf?)).1,
        (upstream.emitAll (frames.filterMap Pump.chunkOf?)).2.withReader reader) := by
  rw [emitBytes, pushed]
  exact upstream.emitAll_withReader reader _

/-- Two portions pass the chain as one does. -/
theorem emitBytes_append (waits : upstream.reader.Waits) {first second : List UInt8}
    (short : FrameReader.Short
      (upstream.reader.held ++ FrameReader.counted (first ++ second))) :
    upstream.emitBytes (first ++ second) =
        ((upstream.emitBytes first).1 ++ ((upstream.emitBytes first).2.emitBytes second).1,
          ((upstream.emitBytes first).2.emitBytes second).2) ∧
      (upstream.emitBytes first).2.reader.Waits ∧
      FrameReader.Short
        ((upstream.emitBytes first).2.reader.held ++ FrameReader.counted second) := by
  obtain ⟨earlier, later, middle, last, pushed, pushedLater, together, goesOn⟩ :=
    FrameReader.push_append waits short
  have still := waits.push first
  rw [pushed] at still
  have before := emitBytes_of_push pushed
  have pushedThen : (upstream.emitBytes first).2.reader.push second = (some later, last) := by
    rw [before]
    exact pushedLater
  have after := emitBytes_of_push pushedThen
  refine ⟨?_, by rw [before]; exact still, by rw [before]; exact goesOn⟩
  rw [after, before, emitBytes_of_push together, List.filterMap_append, emitAll_append]
  simp only [emitAll_withReader, withReader_withReader]

/-- An empty portion is not noticed. -/
theorem emitBytes_nil (waits : upstream.reader.Waits)
    (short : FrameReader.Short upstream.reader.held) :
    upstream.emitBytes [] = ([], upstream) := by
  have fits : upstream.reader.held.length ≤ FrameReader.capacity := by
    apply Nat.le_of_lt
    apply short
    rw [waits.single]
    exact List.mem_singleton.mpr rfl
  exact emitBytes_of_push (FrameReader.push_nil waits fits)

/-- The signals of a body are those of one portion that holds all of its bytes. -/
theorem signals_eq_atOnce (waits : upstream.reader.Waits) {parts : List BodyPart}
    (short : FrameReader.Short
      (upstream.reader.held ++ FrameReader.counted (BodyPart.content parts).1)) :
    upstream.signals parts =
      upstream.signals
        (BodyPart.atOnce (BodyPart.content parts).1 (BodyPart.content parts).2) := by
  induction parts generalizing upstream with
  | nil =>
      have nothing := emitBytes_nil waits (by simpa [BodyPart.content] using short)
      simp only [BodyPart.content, BodyPart.atOnce, signals, Option.toList, List.map_nil, nothing,
        List.nil_append]
  | cons part rest ih =>
      cases part with
      | bytes portion =>
          obtain ⟨together, still, goesOn⟩ := emitBytes_append waits short
          have later := ih still goesOn
          simp only [BodyPart.atOnce, BodyPart.content, signals] at later ⊢
          rw [later, together, List.append_assoc]
      | failure cause =>
          have nothing := emitBytes_nil waits (by simpa [BodyPart.content] using short)
          simp only [BodyPart.content, BodyPart.atOnce, signals, nothing, List.nil_append]
          rfl
      | delay duration => exact ih waits short

end Upstream

namespace Pump

/-- What is delivered depends on the bytes of a body and on how it ends, and not on the portions in
which the bytes arrive: they may be cut inside a character, a value or a blank line. -/
theorem events_eq_of_content_eq (chain : Chain) (context : Context) (supply : Supply)
    {parts others : List BodyPart} (same : BodyPart.content parts = BodyPart.content others)
    (short : FrameReader.Short (FrameReader.counted (BodyPart.content parts).1)) :
    (new chain context supply).events parts = (new chain context supply).events others := by
  have waits : (new chain context supply).upstream.reader.Waits := FrameReader.waits_new
  have signals : (new chain context supply).upstream.signals parts =
      (new chain context supply).upstream.signals others := by
    calc (new chain context supply).upstream.signals parts
      _ = (new chain context supply).upstream.signals
            (BodyPart.atOnce (BodyPart.content parts).1 (BodyPart.content parts).2) :=
          Upstream.signals_eq_atOnce waits short
      _ = (new chain context supply).upstream.signals
            (BodyPart.atOnce (BodyPart.content others).1 (BodyPart.content others).2) := by
          rw [same]
      _ = (new chain context supply).upstream.signals others :=
          (Upstream.signals_eq_atOnce waits (same ▸ short)).symm
  rw [events_eq_run, events_eq_run]
  exact congrArg (fun signals => (Delivery.run _ signals).1) signals

/-- A letter of two bytes is cut in the middle, and so is the blank line after it. -/
theorem events_eq_of_content_eq_letter :
    let context : Context := ⟨⟨1⟩, "main", "small", true, []⟩
    let first := "data: \x7b\"choices\": [\x7b\"delta\": \x7b\"content\": \"".toUTF8.toList ++ [195]
    let second := 169 :: "\"\x7d\x7d]\x7d\r\n".toUTF8.toList
    let cause := Failure.network .body "reset"
    let pump := Pump.new ⟨[.openai, .cleancache]⟩ context ⟨0⟩
    FrameReader.Short (FrameReader.counted (first ++ (second ++ [10]))) ∧
      pump.events [.bytes first, .bytes [], .delay 5, .bytes second, .bytes [10], .failure cause] =
        pump.events [.bytes (first ++ (second ++ [10])), .failure cause] := by
  intro context first second cause pump
  have short : FrameReader.Short (FrameReader.counted (first ++ (second ++ [10]))) := by
    decide +kernel
  refine ⟨short, ?_⟩
  exact events_eq_of_content_eq _ context ⟨0⟩ (by simp [BodyPart.content])
    (by simpa [BodyPart.content] using short)

end Pump

end ChatGateway
