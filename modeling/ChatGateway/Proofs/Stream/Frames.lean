import ChatGateway.Proofs.Stream.Overflow
import ChatGateway.Proofs.Stream.RoundTrip

/-!
# The frames of a stream

The frames of a stream can be told from all of its bytes at once: they are those of the stretches
between blank lines that have a line of data.  A reader that is given the bytes in portions gives the
same frames as long as it can hold what the portions leave unfinished, and it never has to look again
at bytes that it has looked at.
-/

namespace ChatGateway.FrameReader

/-- The frames of bytes that are given as a whole. -/
def wholeFrames (bytes : List UInt8) : List Frame :=
  (stretches (counted bytes)).filterMap Frame.ofBytes?

/-- Whether a blank line begins at a position. -/
def BlankLineAt (position : Nat) (bytes : List UInt8) : Prop :=
  bytes[position]? = some 10 ∧ bytes[position + 1]? = some 10

/-- Whether what portions leave unfinished can be held, after each of them. -/
def FitsAll (reader : FrameReader) (portions : List (List UInt8)) : Prop :=
  ∀ earlier, earlier <+: portions → (reader.leftover earlier.flatten).length ≤ capacity

variable {reader : FrameReader}

/-! ## Blank lines -/

/-- Bytes that are one stretch have no blank line. -/
theorem not_blankLineAt {bytes : List UInt8} (single : stretches bytes = [bytes]) (position : Nat) :
    ¬BlankLineAt position bytes := by
  induction bytes generalizing position with
  | nil => rintro ⟨first, -⟩; cases first
  | cons byte rest ih =>
      obtain ⟨other, later⟩ := not_blank_of_single single
      rintro ⟨first, second⟩
      cases position with
      | zero =>
          cases first
          exact other ⟨rfl, by rw [List.head?_eq_getElem?]; exact second⟩
      | succ position => exact ih later position ⟨first, second⟩

/-! ## Portions -/

theorem completed_append (reader : FrameReader) (first second : List UInt8) :
    reader.completed (first ++ second) =
        reader.completed first ++ (reader.after first).completed second ∧
      reader.leftover (first ++ second) = (reader.after first).leftover second := by
  apply completed_eq
  rw [counted_append, ← List.append_assoc,
    stretches_append (stretches_eq_completed_append reader first), List.append_assoc,
    ← stretches_eq_completed_append]
  rfl

theorem completed_nil (waits : reader.Waits) :
    reader.completed [] = [] ∧ reader.leftover [] = reader.held := by
  apply completed_eq
  rw [counted_nil, List.append_nil, waits.single]
  rfl

theorem after_append (reader : FrameReader) (first second : List UInt8) :
    reader.after (first ++ second) = (reader.after first).after second := by
  rw [after, (completed_append reader first second).2]
  rfl

theorem after_nil (waits : reader.Waits) : reader.after [] = reader := by
  rw [after, (completed_nil waits).2, ← waits.scanned]

theorem fitsAll_cons (waits : reader.Waits) {portion : List UInt8} {rest : List (List UInt8)} :
    reader.FitsAll (portion :: rest) ↔
      reader.held.length ≤ capacity ∧ (reader.after portion).FitsAll rest := by
  constructor
  · intro fits
    constructor
    · have none := fits [] List.nil_prefix
      rwa [List.flatten_nil, (completed_nil waits).2] at none
    · intro earlier front
      have longer := fits (portion :: earlier) (List.cons_prefix_cons.mpr ⟨rfl, front⟩)
      rwa [List.flatten_cons, (completed_append reader portion _).2] at longer
  · rintro ⟨held, others⟩ earlier front
    rcases List.prefix_cons_iff.mp front with rfl | ⟨shorter, rfl, inRest⟩
    · rwa [List.flatten_nil, (completed_nil waits).2]
    · rw [List.flatten_cons, (completed_append reader portion _).2]
      exact others shorter inRest

theorem pushAll_cons_of_fits (waits : reader.Waits) {portion : List UInt8}
    (fits : (reader.leftover portion).length ≤ capacity) (rest : List (List UInt8)) :
    reader.pushAll (portion :: rest) =
      (((reader.after portion).pushAll rest).1.map
          ((reader.completed portion).filterMap Frame.ofBytes? ++ ·),
        ((reader.after portion).pushAll rest).2) := by
  rw [pushAll, push_of_fits waits fits]

theorem pushAll_cons_of_overflows (waits : reader.Waits) {portion : List UInt8}
    (overflows : capacity < (reader.leftover portion).length) (rest : List (List UInt8)) :
    reader.pushAll (portion :: rest) = (none, reader.after portion) := by
  rw [pushAll, push_of_overflows waits overflows]

/-- Portions give all frames just when each of them leaves no more unfinished than can be held. -/
theorem isSome_pushAll_iff (waits : reader.Waits) (held : reader.held.length ≤ capacity)
    (portions : List (List UInt8)) :
    (reader.pushAll portions).1.isSome = true ↔ reader.FitsAll portions := by
  induction portions generalizing reader with
  | nil =>
      refine iff_of_true rfl ?_
      intro earlier front
      rwa [List.prefix_nil.mp front, List.flatten_nil, (completed_nil waits).2]
  | cons portion rest ih =>
      have still := reader.waits_after portion
      rw [fitsAll_cons waits, and_iff_right held]
      rcases Nat.lt_or_ge capacity (reader.leftover portion).length with overflows | fits
      · rw [pushAll_cons_of_overflows waits overflows]
        refine iff_of_false Bool.false_ne_true ?_
        intro others
        have none := others [] List.nil_prefix
        rw [List.flatten_nil, (completed_nil still).2] at none
        exact absurd none (Nat.not_le.mpr overflows)
      · rw [pushAll_cons_of_fits waits fits, Option.isSome_map, ih still fits]

/-- Frames that portions give are those of the stretches that they complete. -/
theorem pushAll_eq_some (waits : reader.Waits) {portions : List (List UInt8)} {frames : List Frame}
    {last : FrameReader} (given : reader.pushAll portions = (some frames, last)) :
    frames = (reader.completed portions.flatten).filterMap Frame.ofBytes? ∧
      last = reader.after portions.flatten := by
  induction portions generalizing reader frames with
  | nil =>
      cases given
      rw [List.flatten_nil, (completed_nil waits).1, after_nil waits]
      exact ⟨rfl, rfl⟩
  | cons portion rest ih =>
      rcases Nat.lt_or_ge capacity (reader.leftover portion).length with overflows | fits
      · rw [pushAll_cons_of_overflows waits overflows] at given
        cases given
      · rw [pushAll_cons_of_fits waits fits, Prod.mk.injEq, Option.map_eq_some_iff] at given
        obtain ⟨⟨more, others, rfl⟩, rest⟩ := given
        obtain ⟨rfl, rfl⟩ := ih (reader.waits_after portion) (Prod.ext others rest)
        rw [List.flatten_cons, after_append, (completed_append reader portion _).1,
          List.filterMap_append]
        exact ⟨rfl, rfl⟩

theorem Waits.pushAll (waits : reader.Waits) (portions : List (List UInt8)) :
    (reader.pushAll portions).2.Waits := by
  induction portions generalizing reader with
  | nil => exact waits
  | cons portion rest ih =>
      have still := reader.waits_after portion
      rcases Nat.lt_or_ge capacity (reader.leftover portion).length with overflows | fits
      · rw [pushAll_cons_of_overflows waits overflows]
        exact still
      · rw [pushAll_cons_of_fits waits fits]
        exact ih still

/-! ## Whole streams -/

/-- As long as what they leave unfinished can be held, portions and the end of the stream give the
frames of the whole stream.  What has been looked at begins no blank line. -/
theorem pushAll_eq_wholeFrames (portions : List (List UInt8)) :
    ((new.pushAll portions).1.isSome = true ↔ new.FitsAll portions) ∧
      (∀ frames last, new.pushAll portions = (some frames, last) →
        frames ++ last.finish.1.toList = wholeFrames portions.flatten) ∧
      ∀ earlier, earlier <+: portions →
        ∀ position < (new.pushAll earlier).2.scanned,
          ¬BlankLineAt position (new.pushAll earlier).2.held := by
  refine ⟨isSome_pushAll_iff waits_new (Nat.zero_le _) portions, ?_, ?_⟩
  · intro frames last given
    obtain ⟨rfl, rfl⟩ := pushAll_eq_some waits_new given
    have whole : stretches (counted portions.flatten) =
        new.completed portions.flatten ++ [new.leftover portions.flatten] :=
      stretches_eq_completed_append new portions.flatten
    rw [wholeFrames, whole, List.filterMap_append]
    cases frame : Frame.ofBytes? (new.leftover portions.flatten) <;>
      simp [finish, after, frame]
  · intro earlier _ position _
    exact not_blankLineAt (waits_new.pushAll earlier).single position

/-- Runs of line feeds are cut from the left, wherever the portions begin and end, and a carriage
return between two line feeds does not keep them apart. -/
theorem pushAll_eq_wholeFrames_runs :
    let portions := ["data: a\r\n\r", "\n", "\n\nevent: e\ndata: b\n", "\n\n\n\ndata: c\n\r",
      "", "\n: d\n\ndata: e"].map fun portion => portion.toUTF8.toList
    ∃ frames last, new.pushAll portions = (some frames, last) ∧
      frames ++ last.finish.1.toList = wholeFrames portions.flatten ∧
      wholeFrames portions.flatten = [⟨none, "a"⟩, ⟨some "e", "b"⟩, ⟨none, "c"⟩, ⟨none, "e"⟩] := by
  intro portions
  have fits : (new.pushAll portions).1.isSome = true := by decide +kernel
  obtain ⟨frames, given⟩ := Option.isSome_iff_exists.mp fits
  have pushed : new.pushAll portions = (some frames, (new.pushAll portions).2) :=
    Prod.ext given rfl
  exact ⟨frames, _, pushed, (pushAll_eq_wholeFrames portions).2.1 frames _ pushed,
    by decide +kernel⟩

end ChatGateway.FrameReader
