import ChatGateway.Proofs.Message.Legible
import ChatGateway.Proofs.Stream.Portions
import ChatGateway.Proofs.Text.Search
import ChatGateway.Proofs.Text.Utf8

/-!
# Events that are written and read again

An event is written on two lines: its name, and the JSON text that describes it.  A line break in a
string is escaped there, so the lines end where they were ended, and a blank line stands between
events and nowhere else.

So whoever cuts the bytes at blank lines, in whatever portions they come, and reads the lines, the
text and its fields again is given the same events, and nothing is left over.
-/

namespace ChatGateway

namespace FrameReader

/-- Takes in portions, one after the other, up to one by which a frame grows too large. -/
def pushAll (reader : FrameReader) : List (List UInt8) → Option (List Frame) × FrameReader
  | [] => (some [], reader)
  | portion :: rest =>
      match reader.push portion with
      | (none, after) => (none, after)
      | (some frames, after) =>
          let (more, last) := after.pushAll rest
          (more.map (frames ++ ·), last)

/-- Portions give the frames that they give as one. -/
theorem pushAll_eq_push {reader : FrameReader} (waits : reader.Waits) {portions : List (List UInt8)}
    (short : Short (reader.held ++ counted portions.flatten)) :
    reader.pushAll portions = reader.push portions.flatten := by
  induction portions generalizing reader with
  | nil =>
      have held : reader.held.length < capacity := by
        apply short reader.held
        rw [List.flatten_nil, counted_nil, List.append_nil, waits.single]
        exact List.mem_cons_self
      rw [List.flatten_nil, push_nil waits held.le]
      rfl
  | cons portion rest ih =>
      rw [List.flatten_cons] at short ⊢
      obtain ⟨earlier, later, middle, last, first, second, whole, others⟩ :=
        push_append waits short
      have still : middle.Waits := by
        have kept := waits.push portion
        rwa [first] at kept
      rw [whole, pushAll, first]
      simp only [ih still others, second, Option.map_some]

end FrameReader

namespace Frame

/-- A line with a name and a value. -/
theorem field?_of_name {name : List Char} (filled : name ≠ []) (plain : ':' ∉ name)
    (value : List Char) : field? (name ++ ':' :: ' ' :: value) = some (name, value) := by
  have before : ∀ character ∈ name, decide (character ≠ ':') = true := by
    intro character member
    exact decide_eq_true fun colon => plain (colon ▸ member)
  have cut : (name ++ ':' :: ' ' :: value).span (· ≠ ':') = (name, ':' :: ' ' :: value) := by
    rw [List.span_eq_takeWhile_dropWhile, List.takeWhile_append_of_pos before,
      List.dropWhile_append_of_pos before]
    simp
  cases name with
  | nil => exact (filled rfl).elim
  | cons first rest =>
      have other : first ≠ ':' := fun colon => plain (colon ▸ List.mem_cons_self)
      rw [List.cons_append] at cut ⊢
      unfold field?
      split
      · rename_i empty
        cases empty
      · rename_i colon
        cases colon
        exact (other rfl).elim
      · rw [cut]
        rfl

end Frame

/-! ## The text of an event -/

namespace Event

/-- The line with the name of an event. -/
def nameLine (event : Event) : List Char := "event".toList ++ ':' :: ' ' :: event.name.toList

/-- The line with the data of an event. -/
def dataLine (event : Event) : List Char := "data".toList ++ ':' :: ' ' :: event.encode.print

/-- The bytes of both lines. -/
def lines (event : Event) : List UInt8 :=
  Text.Utf8.encode event.nameLine ++ 10 :: Text.Utf8.encode event.dataLine

theorem toList_toUTF8_toSse (event : Event) :
    event.toSse.toUTF8.toList = event.lines ++ [10, 10] := by
  have characters : event.toSse.toList =
      event.nameLine ++ ['\n'] ++ event.dataLine ++ ['\n', '\n'] := by
    simp [toSse, nameLine, dataLine, Json.render]
  have feed : Text.Utf8.encode ['\n'] = [10] := rfl
  have blank : Text.Utf8.encode ['\n', '\n'] = [10, 10] := rfl
  rw [Text.Utf8.toList_toUTF8, characters, lines, Text.Utf8.encode_append,
    Text.Utf8.encode_append, Text.Utf8.encode_append, feed, blank, List.append_assoc _ [10]]
  rfl

theorem name_mem_names (event : Event) : event.name ∈ names := by
  cases event <;> simp [name, names]

theorem printable_nameLine (event : Event) : Json.Printable event.nameLine := by
  have known : ∀ name ∈ names,
      ("event".toList ++ ':' :: ' ' :: name.toList).all (32 ≤ ·.toNat) = true := by decide
  exact Json.printable_of_all (known event.name event.name_mem_names)

theorem printable_dataLine {event : Event} {room : Nat} (legible : event.encode.IsLegible room) :
    Json.Printable event.dataLine := by
  have mark : Json.Printable ("data".toList ++ [':', ' ']) := Json.printable_of_all rfl
  exact mark.append legible.printable

end Event

/-- No byte of printable characters is a control character. -/
theorem Json.Printable.not_mem_encode {text : List Char} (printable : Json.Printable text)
    {byte : UInt8} (control : byte.toNat < 32) : byte ∉ Text.Utf8.encode text := by
  apply Text.Utf8.not_mem_encode (control.trans (by decide))
  intro character member
  exact (control.trans_le (printable character member)).ne'

namespace Event

/-- Both lines are read as the frame with the name and the text. -/
theorem ofBytes?_lines {event : Event} {room : Nat} (legible : event.encode.IsLegible room) :
    Frame.ofBytes? event.lines = some ⟨some event.name, event.encode.render⟩ := by
  have feed {text : List Char} (printable : Json.Printable text) : '\n' ∉ text := by
    intro member
    exact absurd (printable '\n' member) (by decide)
  have characters : Text.Utf8.decode event.lines = event.nameLine ++ '\n' :: event.dataLine := by
    rw [lines, ← Text.Utf8.decode_encode (event.nameLine ++ '\n' :: event.dataLine),
      Text.Utf8.encode_append]
    rfl
  have pieces : Text.pieces '\n' (Text.Utf8.decode event.lines) =
      [event.nameLine, event.dataLine] := by
    rw [characters, Text.pieces_append_cons (feed event.printable_nameLine),
      Text.pieces_of_not_mem (feed (printable_dataLine legible))]
  have name : Frame.field? event.nameLine = some ("event".toList, event.name.toList) :=
    Frame.field?_of_name (by decide) (by decide) _
  have data : Frame.field? event.dataLine = some ("data".toList, event.encode.print) :=
    Frame.field?_of_name (by decide) (by decide) _
  have fields : (Text.pieces '\n' (Text.Utf8.decode event.lines)).filterMap Frame.field? =
      [("event".toList, event.name.toList), ("data".toList, event.encode.print)] := by
    simp only [pieces, List.filterMap_cons, name, data, List.filterMap_nil]
  have named : Frame.values "event" [("event".toList, event.name.toList),
      ("data".toList, event.encode.print)] = [event.name] := by
    simp [Frame.values]
  have filled : Frame.values "data" [("event".toList, event.name.toList),
      ("data".toList, event.encode.print)] = [event.encode.render] := by
    simp [Frame.values, Json.render]
  simp only [Frame.ofBytes?, fields, named, filled]
  rfl

/-- The text of an event is that of an object. -/
theorem exists_print_encode (event : Event) :
    ∃ inside, event.encode.print = '\x7b' :: inside ++ ['\x7d'] := by
  have described : ∃ fields, event.encode = .object fields := ⟨_, rfl⟩
  obtain ⟨fields, same⟩ := described
  rw [same, Json.print]
  exact ⟨_, rfl⟩

/-- Nothing of the text of an event is trimmed. -/
theorem trim_render_encode (event : Event) :
    Text.trim event.encode.render = event.encode.render := by
  obtain ⟨inside, print⟩ := event.exists_print_encode
  have whole : Text.trimChars event.encode.print = event.encode.print := by
    rw [print]
    exact Text.trimChars_eq_self rfl List.getLast?_concat (by decide) (by decide)
  rw [Text.trim, Json.render, String.toList_ofList, whole]

end Event

/-! ## Frames of events -/

/-- The event of a frame, if it has one. -/
def Frame.eventOf? (frame : Frame) : Option Event :=
  match Pump.chunkOf? frame with
  | some (.event _ data) => Event.decode? data
  | _ => none

namespace Event

/-- The frame of an event. -/
def frame (event : Event) : Frame := ⟨some event.name, event.encode.render⟩

/-- The chunk of the frame holds the value that describes the event. -/
theorem chunkOf?_frame {event : Event} (legible : event.encode.IsLegible Json.depthLimit) :
    Pump.chunkOf? event.frame = some (.event (some event.name) event.encode.normalize) := by
  have notDone : event.encode.render ≠ "[DONE]" := by
    intro done
    obtain ⟨inside, print⟩ := event.exists_print_encode
    have characters := congrArg String.toList done
    rw [Json.render, String.toList_ofList, print] at characters
    exact absurd (List.cons.inj characters).1 (by decide)
  rw [Pump.chunkOf?, frame]
  simp only [trim_render_encode, if_neg notDone, parse?_render_encode legible, Option.map_some]

/-- An event is read from its frame. -/
theorem eventOf?_frame {event : Event} (parsed : event.IsParsed) :
    event.frame.eventOf? = some event := by
  obtain ⟨regular, legible⟩ := event.isParsed_iff.mp parsed
  rw [Frame.eventOf?, chunkOf?_frame legible]
  exact decode?_encode regular

theorem length_lines_lt {event : Event} (short : event.toSse.utf8ByteSize < FrameReader.capacity) :
    event.lines.length < FrameReader.capacity := by
  have bytes := congrArg List.length event.toList_toUTF8_toSse
  rw [Text.Utf8.toList_toUTF8, Text.Utf8.length_encode, List.length_append] at bytes
  exact (Nat.le_add_right _ _).trans_lt (bytes ▸ short)

/-- Every byte of the text of an event counts, and the blank line ends its stretch. -/
theorem stretches_toSse {event : Event} {room : Nat} (legible : event.encode.IsLegible room)
    (rest : List UInt8) :
    FrameReader.stretches (FrameReader.counted event.toSse.toUTF8.toList ++ rest) =
      event.lines :: FrameReader.stretches rest := by
  have first := event.printable_nameLine
  have second := printable_dataLine legible
  have noReturn : ∀ byte ∈ event.lines ++ [10, 10], decide (byte ≠ 13) = true := by
    intro byte member
    apply decide_eq_true
    rintro rfl
    simp only [lines, List.append_assoc, List.cons_append, List.mem_append, List.mem_cons,
      List.not_mem_nil, or_false] at member
    rcases member with inName | feed | inData | feed | feed
    · exact first.not_mem_encode (by decide) inName
    · exact absurd feed (by decide)
    · exact second.not_mem_encode (by decide) inData
    · exact absurd feed (by decide)
    · exact absurd feed (by decide)
  have counts : FrameReader.counted (event.lines ++ [10, 10]) = event.lines ++ [10, 10] :=
    List.filter_eq_self.mpr noReturn
  have filled : Text.Utf8.encode event.dataLine ≠ [] := by
    rw [dataLine, Text.Utf8.encode_append]
    exact List.append_ne_nil_of_left_ne_nil (by decide) _
  have cut := FrameReader.stretches_two_lines (first.not_mem_encode (by decide))
    (second.not_mem_encode (by decide)) filled rest
  rw [event.toList_toUTF8_toSse, counts, lines, ← cut]
  congr 1
  simp only [List.append_assoc, List.cons_append, List.nil_append]

end Event

/-- The stretches of events are their lines. -/
theorem FrameReader.stretches_events {events : List Event}
    (parsed : ∀ event ∈ events, event.IsParsed) :
    stretches (counted (events.flatMap fun event => event.toSse.toUTF8.toList)) =
      events.map Event.lines ++ [[]] := by
  induction events with
  | nil => rfl
  | cons event rest ih =>
      obtain ⟨first, others⟩ := List.forall_mem_cons.mp parsed
      rw [List.flatMap_cons, counted_append, Event.stretches_toSse (event.isParsed_iff.mp first).2,
        ih others]
      rfl

/-- Events that were parsed and are written and cut into portions anywhere come out again, in their
order and under their names, and nothing is left over. -/
theorem FrameReader.pushAll_toSse {events : List Event} {portions : List (List UInt8)}
    (parsed : ∀ event ∈ events, event.IsParsed)
    (short : ∀ event ∈ events, event.toSse.utf8ByteSize < capacity)
    (written : portions.flatten = events.flatMap fun event => event.toSse.toUTF8.toList) :
    ∃ frames, new.pushAll portions = (some frames, new) ∧
      frames.map Frame.eventOf? = events.map some ∧
      frames.map Frame.event = events.map fun event => some event.name := by
  have cut : stretches (new.held ++ counted portions.flatten) =
      events.map Event.lines ++ [[]] := by
    rw [written]
    exact stretches_events parsed
  have fits : Short (new.held ++ counted portions.flatten) := by
    intro stretch member
    rw [cut, List.mem_append, List.mem_map, List.mem_singleton] at member
    rcases member with ⟨event, inside, rfl⟩ | rfl
    · exact Event.length_lines_lt (short event inside)
    · decide
  have read : (events.map Event.lines).filterMap Frame.ofBytes? = events.map Event.frame := by
    rw [List.filterMap_map, ← List.filterMap_eq_map]
    apply List.filterMap_congr
    intro event member
    exact Event.ofBytes?_lines (event.isParsed_iff.mp (parsed event member)).2
  refine ⟨events.map Event.frame, ?_, ?_, ?_⟩
  · rw [pushAll_eq_push waits_new fits, push_eq waits_new cut, if_neg (by decide), read]
    rfl
  · rw [List.map_map]
    apply List.map_congr_left
    intro event member
    rw [Function.comp_apply]
    exact Event.eventOf?_frame (parsed event member)
  · rw [List.map_map]
    apply List.map_congr_left
    intro event _
    rfl

/-- A text with line breaks, a colon and an end mark is cut within a character. -/
theorem FrameReader.pushAll_toSse_cut_anywhere :
    let delta : Event := .blockDelta 0 (.text "data: [DONE]\n\né\r")
    let events : List Event := [.ping, delta, .messageStop]
    let bytes := events.flatMap fun event => event.toSse.toUTF8.toList
    let portions := [bytes.take 162, bytes.drop 162]
    (∀ event ∈ events, event.IsParsed) ∧
      (∀ event ∈ events, event.toSse.utf8ByteSize < capacity) ∧
      ∃ frames, new.pushAll portions = (some frames, new) ∧
        frames.map Frame.eventOf? = events.map some ∧
        frames.map Frame.event = events.map fun event => some event.name := by
  intro delta events bytes portions
  have bare : Json.FieldsLegible 2 [] := Json.fieldsLegible_nil
  have growth : (Json.object [("type", .string "text_delta"),
      ("text", .string "data: [DONE]\n\né\r")]).IsLegible 2 :=
    ((Json.fieldsLegible_nil.string _ _).string _ _).object
  have parsed : ∀ event ∈ events, event.IsParsed := by
    simp only [events, List.forall_mem_cons, Event.isParsed_iff]
    refine ⟨⟨trivial, ?_⟩, ⟨⟨rfl, trivial⟩, ?_⟩, ⟨trivial, ?_⟩, nofun⟩
    · exact (bare.string _ _).object.mono (by decide)
    · exact (((bare.cons growth _).cons (Json.isLegible_ofNat rfl 2) _).string _ _).object.mono
        (by decide)
    · exact (bare.string _ _).object.mono (by decide)
  have short : ∀ event ∈ events, event.toSse.utf8ByteSize < capacity := by
    simp only [events, List.forall_mem_cons]
    refine ⟨by decide +kernel, by decide +kernel, by decide +kernel, nofun⟩
  have written : portions.flatten = bytes := by
    simp [portions]
  exact ⟨parsed, short, pushAll_toSse parsed short written⟩

end ChatGateway
