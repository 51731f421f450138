import ChatGateway.Message.Event
import ChatGateway.Proofs.Json.Fields

/-!
# Parts of answers and events

Counts, headers, final fields and failures are read back from what is written for them, the counts
if they have at most 32 bits.  The events that writers make are made of such parts.
-/

namespace ChatGateway

/-- Every count has at most 32 bits. -/
structure Usage.Fits (usage : Usage) : Prop where
  input : Word.fits 32 usage.inputTokens = true
  output : Word.fits 32 usage.outputTokens = true
  cached : ∀ count, usage.cacheReadInputTokens = some count → Word.fits 32 count = true

theorem Usage.fits_zero : Usage.zero.Fits where
  input := rfl
  output := rfl
  cached := by simp [zero]

theorem Usage.decode?_encode {usage : Usage} (fits : usage.Fits) :
    Usage.decode? usage.encode.normalize = some usage := by
  obtain ⟨source, opened, found⟩ := Json.exists_source (encode.eq_1 usage)
  have input : source.withDefault "input_tokens" 0 Json.nat32? = some usage.inputTokens :=
    Json.Source.withDefault_of_find? (by simp [found]) (Json.nat32?_ofNat fits.input) 0
  have output : source.withDefault "output_tokens" 0 Json.nat32? = some usage.outputTokens :=
    Json.Source.withDefault_of_find? (by simp [found]) (Json.nat32?_ofNat fits.output) 0
  have cached : source.optional "cache_read_input_tokens" Json.nat32? =
      some usage.cacheReadInputTokens :=
    Json.Source.optional_of_find? (by simp [found]) fun count member =>
      Json.returns_ofNat (fits.cached count member)
  simp only [decode?, opened, input, output, cached, bind, Option.bind_some]

theorem Role.decode?_encode (heldBack : Bool) (role : Role) :
    Role.decode? heldBack role.encode.normalize = some role := by
  cases role <;> rfl

theorem StopReason.returns (heldBack : Bool) (reason : StopReason) :
    Json.Returns encode (decode? heldBack) reason := by
  constructor
  · simp [encode, Json.normalize]
  · cases reason <;> rfl

/-- Without a reason, null is written. -/
theorem StopReason.optional_of_find? {heldBack : Bool} {source : Json.Source} {name : String}
    {reason : Option StopReason}
    (found : source.find? name = some (Json.ofOption encode reason).normalize) :
    source.optional name (decode? heldBack) = some reason := by
  cases reason with
  | none =>
      have back : Json.Source.nullable (decode? heldBack) Json.null = some none := rfl
      exact Json.Source.withDefault_of_find? found back none
  | some given =>
      have written : source.find? name =
          (some given).map fun reason => (encode reason).normalize := found
      exact Json.Source.optional_of_find? written fun reason _ => returns heldBack reason

theorem MessageHeader.decode?_encode (header : MessageHeader) (fits : header.usage.Fits) :
    MessageHeader.decode? header.encode.normalize = some header := by
  obtain ⟨source, opened, found⟩ := Json.exists_source (encode.eq_1 header)
  have id : source.required "id" Json.string? = some header.id :=
    Json.Source.required_string (by simp [found])
  have model : source.withDefault "model" "" Json.string? = some header.model :=
    Json.Source.withDefault_of_find? (by simp [found]) (Json.returns_string header.model).back ""
  have role : source.withDefault "role" .assistant (Role.decode? true) = some header.role :=
    Json.Source.withDefault_of_find? (by simp [found]) (Role.decode?_encode true header.role) _
  have usage : source.withDefault "usage" .zero Usage.decode? = some header.usage :=
    Json.Source.withDefault_of_find? (by simp [found]) (Usage.decode?_encode fits) _
  simp only [decode?, opened, id, model, role, usage, bind, Option.bind_some]

theorem Closing.decode?_encode (closing : Closing) :
    Closing.decode? closing.encode.normalize = some closing := by
  obtain ⟨source, opened, found⟩ := Json.exists_source (encode.eq_1 closing)
  have stopReason : source.optional "stop_reason" (StopReason.decode? true) =
      some closing.stopReason :=
    StopReason.optional_of_find? (by simp [found])
  have stopSequence : source.optional "stop_sequence" Json.string? = some closing.stopSequence :=
    Json.Source.optional_string (by simp [found])
  simp only [decode?, opened, stopReason, stopSequence, bind, Option.bind_some]

theorem ErrorBody.decode?_encode (body : ErrorBody) :
    ErrorBody.decode? body.encode.normalize = some body := by
  obtain ⟨source, opened, found⟩ := Json.exists_source (encode.eq_1 body)
  have kind : source.required "type" Json.string? = some body.kind :=
    Json.Source.required_string (by simp [found])
  have message : source.required "message" Json.string? = some body.message :=
    Json.Source.required_string (by simp [found])
  simp only [decode?, opened, kind, message, bind, Option.bind_some]

namespace Event

/-- The events that writers make. -/
inductive Plain : Event → Prop where
  | messageStart (id model : String) {usage : Usage} (fits : usage.Fits) :
      Plain (.messageStart ⟨id, model, .assistant, usage⟩)
  | textStart (index : Nat) : Plain (.blockStart index (.ofText ""))
  | thinkingStart (index : Nat) : Plain (.blockStart index (.thinking "" none))
  | toolStart (index : Nat) (id name : String) :
      Plain (.blockStart index (.toolUse id name (.object [])))
  | text (index : Nat) (words : String) : Plain (.blockDelta index (.text words))
  | thinking (index : Nat) (thought : String) : Plain (.blockDelta index (.thinking thought))
  | arguments (index : Nat) (partialJson : String) :
      Plain (.blockDelta index (.inputJson partialJson))
  | blockStop (index : Nat) : Plain (.blockStop index)
  | messageDelta (reason : StopReason) {usage : Usage} (fits : usage.Fits) :
      Plain (.messageDelta ⟨some reason, none⟩ (some usage))
  | messageStop : Plain .messageStop
  | error (body : ErrorBody) : Plain (.error body)

/-- The index of the block that an event is about. -/
def index? : Event → Option Nat
  | .blockStart index _ => some index
  | .blockDelta index _ => some index
  | .blockStop index => some index
  | _ => none

/-- Whether the index of an event's block, if it is about one, has at most 64 bits. -/
def indexFits (event : Event) : Bool := event.index?.all (Word.fits 64)

end Event

end ChatGateway
