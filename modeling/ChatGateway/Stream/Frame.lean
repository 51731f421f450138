import ChatGateway.Text.Search
import ChatGateway.Text.Utf8

/-!
# Server-sent events

A stream of bytes is cut into frames at blank lines.  A frame has a name and data, each on lines
of their own.  Bytes may arrive in any portions: what has not been closed by a blank line waits.
-/

namespace ChatGateway

/-- One server-sent event. -/
structure Frame where
  event : Option String
  data : String
  deriving DecidableEq, Repr, Inhabited

namespace Frame

/-- The name and the value of a line.  An empty line and one that begins with a colon have
neither; a blank after the first colon is not part of the value. -/
def field? : List Char → Option (List Char × List Char)
  | [] => none
  | ':' :: _ => none
  | line =>
      let (name, rest) := line.span (· ≠ ':')
      match rest.drop 1 with
      | ' ' :: value => some (name, value)
      | value => some (name, value)

/-- The values of the fields of one name. -/
def values (name : String) (fields : List (List Char × List Char)) : List String :=
  (fields.filter fun field => field.1 = name.toList).map fun field => String.ofList field.2

/-- The frame that bytes describe.  Lines of data are joined by line breaks, the last name counts,
and without a line of data there is no frame. -/
def ofBytes? (bytes : List UInt8) : Option Frame :=
  let fields := (Text.pieces '\n' (Text.Utf8.decode bytes)).filterMap field?
  match values "data" fields with
  | [] => none
  | data => some ⟨(values "event" fields).getLast?, "\n".intercalate data⟩

end Frame

/-- What a reader of frames keeps between portions. -/
structure FrameReader where
  /-- The bytes of the frame that is not complete, without carriage returns. -/
  held : List UInt8
  /-- How many of them are known not to begin a blank line. -/
  scanned : Nat
  deriving DecidableEq, Repr, Inhabited

namespace FrameReader

/-- Nothing read yet. -/
def new : FrameReader := ⟨[], 0⟩

/-- The most bytes that an incomplete frame may have. -/
def capacity : Nat := 8 * 1024 * 1024

/-- The position of the first blank line, counted from `position`. -/
def blankLineFrom? (position : Nat) : List UInt8 → Option Nat
  | [] => none
  | byte :: rest =>
      if byte = 10 ∧ rest.head? = some 10 then some position
      else blankLineFrom? (position + 1) rest

theorem ne_nil_of_blankLineFrom? {position found : Nat} {bytes : List UInt8}
    (here : blankLineFrom? position bytes = some found) : bytes ≠ [] := by
  rintro rfl
  simp [blankLineFrom?] at here

/-- Cuts bytes at blank lines, the first `scanned` of them beginning none: the complete pieces
after those already `cut`, the latest first, and what remains. -/
def cut (pieces : List (List UInt8)) (scanned : Nat) (bytes : List UInt8) :
    List (List UInt8) × List UInt8 :=
  match found : blankLineFrom? scanned (bytes.drop scanned) with
  | none => (pieces, bytes)
  | some position => cut (bytes.take position :: pieces) 0 (bytes.drop (position + 2))
termination_by bytes.length
decreasing_by
  have some_dropped := List.length_pos_iff.mpr (ne_nil_of_blankLineFrom? found)
  simp only [List.length_drop] at some_dropped ⊢
  omega

/-- Takes in bytes.  `none` stands for an incomplete frame that has grown too large; the frames
completed by the same bytes are lost then. -/
def push (reader : FrameReader) (bytes : List UInt8) : Option (List Frame) × FrameReader :=
  let (pieces, held) := cut [] reader.scanned (reader.held ++ bytes.filter (· ≠ 13))
  let reader : FrameReader := ⟨held, held.length - 1⟩
  if capacity < held.length then (none, reader)
  else (some (pieces.reverse.filterMap Frame.ofBytes?), reader)

/-- The frame at the end that no blank line closed. -/
def finish (reader : FrameReader) : Option Frame × FrameReader :=
  (Frame.ofBytes? reader.held, new)

end FrameReader

end ChatGateway
