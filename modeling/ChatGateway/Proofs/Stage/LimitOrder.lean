import ChatGateway.Proofs.Message.ReadBack
import ChatGateway.Stage.Chain

/-!
# Limits before and after a change of shape

A cap on the output can be put on a canonical request or on what a stage has made of it.  The cap
finds the limit by the fields that a body has, so it has to find the place that the stage has moved
the limit to, and has to make that place where the stage has left it out.  Both orders send the same.

The stage of the messages protocol is not among those of which this is shown: it sets a limit of its
own where there is none, which a later cap lowers and an earlier one prevents.
-/

namespace ChatGateway.OutputLimit

/-- The limit of a request under a cap. -/
def limitOf (limit : Nat) (request : Request) : Nat :=
  match request.maxTokens with
  | some requested => min requested limit
  | none => limit

/-- The request with its limit under a cap. -/
def limited (limit : Nat) (request : Request) : Request :=
  { request with maxTokens := some (limitOf limit request) }

theorem limitOf_le (limit : Nat) (request : Request) : limitOf limit request ≤ limit := by
  rw [limitOf]
  split
  · exact Nat.min_le_right _ _
  · exact le_refl _

/-- A field in which the limit of a request is read is capped to its limit under the cap. -/
theorem capField_of_reads {name : String} {fields : Dictionary Json} {request : Request}
    (reads : (Dictionary.get? name fields).bind Json.nat? = request.maxTokens) (limit : Nat) :
    capField limit name fields =
      Dictionary.insert name (.ofNat (limitOf limit request)) fields := by
  have capped : cap limit (Dictionary.get? name fields) = .ofNat (limitOf limit request) := by
    rw [cap, reads, limitOf]
    cases request.maxTokens <;> rfl
  rw [capField, capped]

theorem bind_nat?_map_ofNat (count : Option Nat) :
    (count.map Json.ofNat).bind Json.nat? = count := by
  cases count with
  | none => rfl
  | some count => simp [Json.ofNat, Json.nat?]

/-! ## Bodies with the limit at the top -/

/-- A body in which the limit of a request is read at the top, without the fields that would be
looked at first. -/
structure IsFlat (fields : Dictionary Json) (request : Request) : Prop where
  generation : Dictionary.get? "generationConfig" fields = none
  completion : Dictionary.get? "max_completion_tokens" fields = none
  contents : Dictionary.get? "contents" fields = none
  reads : (Dictionary.get? "max_tokens" fields).bind Json.nat? = request.maxTokens

theorem IsFlat.capBody {fields : Dictionary Json} {request : Request}
    (flat : IsFlat fields request) (limit : Nat) :
    capBody limit fields =
      Dictionary.insert "max_tokens" (.ofNat (limitOf limit request)) fields := by
  rw [OutputLimit.capBody, flat.generation, flat.completion, flat.contents]
  exact capField_of_reads flat.reads limit

/-- Only four fields count. -/
theorem IsFlat.of_same {fields more : Dictionary Json} {request : Request}
    (flat : IsFlat fields request)
    (same : ∀ name ∈ ["generationConfig", "max_completion_tokens", "contents", "max_tokens"],
      Dictionary.get? name more = Dictionary.get? name fields) : IsFlat more request where
  generation := (same _ (by decide)).trans flat.generation
  completion := (same _ (by decide)).trans flat.completion
  contents := (same _ (by decide)).trans flat.contents
  reads := same "max_tokens" (by decide) ▸ flat.reads

/-! ## Canonical bodies -/

/-- A body that describes a request and has no field that requests do not have, as what is written
for a request. -/
structure IsCanonical (fields : Dictionary Json) (request : Request) : Prop where
  own : ∀ name, name ∉ Request.fieldNames → Dictionary.get? name fields = none
  decoded : Request.decode? (.object fields) = some request

/-- What is read as an optional 32-bit number is the number that stands there. -/
theorem bind_nat?_of_optional {fields : List (String × Json)} {name : String} {count : Option Nat}
    (read : (Json.Source.named fields).optional name Json.nat32? = some count) :
    (Dictionary.get? name fields).bind Json.nat? = count := by
  rw [Json.Source.optional, Json.Source.withDefault, Json.Source.find?] at read
  cases found : Dictionary.get? name fields with
  | none =>
      rw [found] at read
      exact Option.some.inj read
  | some value =>
      rw [found] at read
      cases value with
      | null => exact Option.some.inj read
      | bool | string | array | object => cases read
      | number value =>
          obtain ⟨result, narrow, rfl⟩ := Option.map_eq_some_iff.mp read
          exact (Option.filter_eq_some_iff.mp narrow).1

section

variable {fields : Dictionary Json} {request : Request}

theorem IsCanonical.isFlat (canonical : IsCanonical fields request) : IsFlat fields request := by
  obtain ⟨source, opened, given⟩ := Request.exists_isGivenBy canonical.decoded
  cases opened
  exact ⟨canonical.own _ (by decide), canonical.own _ (by decide), canonical.own _ (by decide),
    bind_nat?_of_optional given.maxTokens⟩

/-- Setting the limit of a body sets the limit of the request it describes. -/
theorem decode?_insert_maxTokens (read : Request.decode? (.object fields) = some request)
    {count : Nat} (fits : Word.fits 32 count = true) :
    Request.decode? (.object (Dictionary.insert "max_tokens" (.ofNat count) fields)) =
      some { request with maxTokens := some count } := by
  obtain ⟨source, opened, given⟩ := Request.exists_isGivenBy read
  cases opened
  refine Request.IsGivenBy.decode? ?_ rfl
  constructor
  case maxTokens =>
    exact Json.Source.optional_insert_self (by simp [Json.ofNat]) (Json.nat32?_ofNat fits) _ _
  case model => exact (Json.Source.withDefault_insert_of_ne (by decide) ..).trans given.model
  case messages => exact (Json.Source.withDefault_insert_of_ne (by decide) ..).trans given.messages
  case stream => exact (Json.Source.withDefault_insert_of_ne (by decide) ..).trans given.stream
  all_goals rw [Json.Source.optional_insert_of_ne (by decide)]
  case system => exact given.system
  case temperature => exact given.temperature
  case topP => exact given.topP
  case stopSequences => exact given.stopSequences
  case tools => exact given.tools
  case toolChoice => exact given.toolChoice
  case thinking => exact given.thinking
  case metadata => exact given.metadata

/-- A capped canonical body describes the capped request. -/
theorem IsCanonical.decode?_capBody (canonical : IsCanonical fields request) {limit : Nat}
    (fits : Word.fits 32 limit = true) :
    Request.decode? (.object (OutputLimit.capBody limit fields)) = some (limited limit request) := by
  have lower : Word.fits 32 (limitOf limit request) = true :=
    decide_eq_true ((limitOf_le limit request).trans_lt (of_decide_eq_true fits))
  rw [canonical.isFlat.capBody]
  exact decode?_insert_maxTokens canonical.decoded lower

end

/-- The fields that are written for a request. -/
structure IsWritten (fields : Dictionary Json) (request : Request) : Prop where
  encoded : request.encode.normalize = .object fields
  sorted : Dictionary.IsSorted fields
  own : ∀ name, name ∉ Request.fieldNames → Dictionary.get? name fields = none
  flat : IsFlat fields request
  limited (limit : Nat) : (limited limit request).encode.normalize =
    .object (Dictionary.insert "max_tokens" (.ofNat (limitOf limit request)) fields)

theorem exists_isWritten (request : Request) : ∃ fields, IsWritten fields request := by
  obtain ⟨fields, encoded, sorted, found⟩ := Json.exists_sorted (Request.encode.eq_1 request)
  have own (name : String) (foreign : name ∉ Request.fieldNames) :
      Dictionary.get? name fields = none := by
    have apart (field : String) (member : field ∈ Request.fieldNames) : field ≠ name := by
      rintro rfl
      exact foreign member
    rw [found]
    simp (disch := decide) [apart]
  refine ⟨fields, encoded, sorted, own, ?flat, ?limited⟩
  case flat =>
    refine ⟨own _ (by decide), own _ (by decide), own _ (by decide), ?_⟩
    rw [found]
    simpa using bind_nat?_map_ofNat request.maxTokens
  case limited =>
    intro limit
    obtain ⟨others, encodedToo, sortedToo, foundToo⟩ :=
      Json.exists_sorted (Request.encode.eq_1 (limited limit request))
    rw [encodedToo, Json.object.injEq]
    apply sortedToo.ext (sorted.insert _ _)
    intro name
    rw [foundToo, Dictionary.get?_insert, found]
    by_cases same : "max_tokens" = name
    · subst same
      simp [limited]
    · simp [limited, same]

/-- What is written for a request is a canonical body of whatever request is read from it, which is
the same one if it is regular. -/
theorem exists_isCanonical {request result : Request}
    (read : Request.decode? request.encode.normalize = some result) :
    ∃ fields, request.encode.normalize = .object fields ∧ IsCanonical fields result := by
  obtain ⟨fields, written⟩ := exists_isWritten request
  exact ⟨fields, written.encoded, written.own, written.encoded ▸ read⟩

/-! ## Shapes -/

/-- A form of bodies: what requests become in it, and the path to the limit. -/
structure Shape where
  convert : Request → Json
  path : List String

/-- The value at the end of a path of fields. -/
def valueAt? (path : List String) (body : Json) : Option Json :=
  path.foldlM (fun value name => value.get? name) body

/-- Capping what a request becomes is the same as capping the request, and leaves the capped limit
at the end of the path. -/
structure Shape.Caps (shape : Shape) (limit : Nat) (request : Request) : Prop where
  capped : ∃ fields, shape.convert request = .object fields ∧
    .object (capBody limit fields) = shape.convert (limited limit request)
  kept : valueAt? shape.path (shape.convert (limited limit request)) =
    some (.ofNat (limitOf limit request))

/-- A form of bodies that keeps the limit at the top. -/
def flatShape (convert : Request → Json) : Shape := ⟨convert, ["max_tokens"]⟩

theorem flatShape_caps {convert : Request → Json} {request : Request} {fields : Dictionary Json}
    (converted : convert request = .object fields) (flat : IsFlat fields request)
    {limit : Nat} (set : convert (limited limit request) =
      .object (Dictionary.insert "max_tokens" (.ofNat (limitOf limit request)) fields)) :
    (flatShape convert).Caps limit request where
  capped := by
    refine ⟨fields, converted, ?_⟩
    rw [flat.capBody]
    exact set.symm
  kept := by
    change valueAt? ["max_tokens"] (convert _) = _
    rw [set]
    simp [valueAt?, Json.get?]

/-- The form of the chat completions protocol. -/
def completionsShape : Shape := flatShape Wire.ChatCompletions.ofRequest

theorem completionsShape_caps (limit : Nat) (request : Request) :
    completionsShape.Caps limit request := by
  refine flatShape_caps (by rw [Wire.ChatCompletions.ofRequest]) ?flat ?set
  case flat =>
    constructor
    case reads =>
      simpa [Dictionary.get?_ofList_append, Dictionary.get?_ofList_ite,
        Json.get?_ofList_optionalField, -List.isEmpty_iff] using
        bind_nat?_map_ofNat request.maxTokens
    all_goals
      simp [Dictionary.get?_ofList_append, Dictionary.get?_ofList_ite,
        Json.get?_ofList_optionalField, -List.isEmpty_iff]
  case set =>
    simp only [Wire.ChatCompletions.ofRequest, limited, List.append_assoc]
    rw [Json.insert_ofList_optionalField]
    · rfl
    · simp [Dictionary.get?_ofList_append, Dictionary.get?_ofList_ite,
        Json.get?_ofList_optionalField, -List.isEmpty_iff]

/-- The form of the messages protocol, with its version in the body. -/
def messagesShape : Shape := flatShape (Wire.Vertex.body .anthropic)

theorem messagesShape_caps (limit : Nat) (request : Request) :
    messagesShape.Caps limit request := by
  obtain ⟨fields, written⟩ := exists_isWritten request
  refine flatShape_caps (by rw [Wire.Vertex.body, written.encoded]; rfl) ?flat ?set
  case flat =>
    apply written.flat.of_same
    intro name member
    have version : "anthropic_version" ≠ name := by
      rintro rfl
      exact absurd member (by decide)
    have model : name ≠ "model" := by
      rintro rfl
      exact absurd member (by decide)
    rw [Dictionary.get?_insert_of_ne version, Dictionary.get?_erase, if_neg model]
  case set =>
    rw [Wire.Vertex.body, written.limited, Json.erase, Json.set,
      written.sorted.erase_insert_of_ne (by decide),
      (written.sorted.erase _).insert_comm (by decide)]

/-! ## The generate-content protocol -/

/-- The form of the generate-content protocol. -/
def contentsShape : Shape :=
  ⟨Wire.GenerateContent.ofRequest, ["generationConfig", "maxOutputTokens"]⟩

theorem keys_optionalField {α : Type} (name : String) (encode : α → Json) (value : Option α) :
    ((optionalField name encode value).map Prod.fst).Sublist [name] := by
  cases value with
  | none => exact List.nil_sublist _
  | some value => exact List.Sublist.refl _

theorem keys_ite {shown : Prop} [Decidable shown] {fields more : List (String × Json)}
    {names : List String} (first : (fields.map Prod.fst).Sublist names)
    (second : (more.map Prod.fst).Sublist names) :
    ((if shown then fields else more).map Prod.fst).Sublist names := by
  split
  · exact first
  · exact second

theorem isSorted_generationFields (request : Request) :
    Dictionary.IsSorted (Wire.GenerateContent.generationFields request) := by
  have thinking : ((if request.thinkingEnabled then
      [("thinkingConfig", Wire.GenerateContent.thinkingConfig request)] else []).map
        Prod.fst).Sublist ["thinkingConfig"] := keys_ite (.refl _) (List.nil_sublist _)
  have keys : ((Wire.GenerateContent.generationFields request).map Prod.fst).Sublist
      ["maxOutputTokens", "stopSequences", "temperature", "thinkingConfig", "topP"] := by
    simp only [Wire.GenerateContent.generationFields, List.map_append]
    exact ((((keys_optionalField _ _ _).append (keys_optionalField _ _ _)).append
      (keys_optionalField _ _ _)).append thinking).append (keys_optionalField _ _ _)
  exact List.Pairwise.sublist keys (by decide)

theorem generationFields_limited (limit : Nat) (request : Request) :
    Wire.GenerateContent.generationFields (limited limit request) =
      Dictionary.insert "maxOutputTokens" (.ofNat (limitOf limit request))
        (Wire.GenerateContent.generationFields request) := by
  -- The parameters are listed without sorting; sorted lists take a new limit in its place.
  rw [← Dictionary.ofList_of_isSorted (isSorted_generationFields request),
    ← Dictionary.ofList_of_isSorted (isSorted_generationFields (limited limit request))]
  simp only [Wire.GenerateContent.generationFields, List.append_assoc]
  apply (Json.insert_ofList_optionalField ?last [] Json.ofNat request.maxTokens _).symm
  case last =>
    simp [Dictionary.get?_ofList_append, Dictionary.get?_ofList_ite,
      Json.get?_ofList_optionalField]

theorem reads_generationFields (request : Request) :
    (Dictionary.get? "maxOutputTokens"
      (Wire.GenerateContent.generationFields request)).bind Json.nat? = request.maxTokens := by
  rw [← Dictionary.ofList_of_isSorted (isSorted_generationFields request)]
  simpa [Wire.GenerateContent.generationFields, Dictionary.get?_ofList_append,
    Dictionary.get?_ofList_ite, Json.get?_ofList_optionalField] using
    bind_nat?_map_ofNat request.maxTokens

/-- The sampling parameters, if there are any. -/
def generation? (request : Request) : Option (Dictionary Json) :=
  if (Wire.GenerateContent.generationFields request).isEmpty then none
  else some (Wire.GenerateContent.generationFields request)

theorem generation?_limited (limit : Nat) (request : Request) :
    generation? (limited limit request) =
      some (Wire.GenerateContent.generationFields (limited limit request)) := by
  refine if_neg fun empty => ?_
  have set := Dictionary.get?_insert_self "maxOutputTokens" (Json.ofNat (limitOf limit request))
    (Wire.GenerateContent.generationFields request)
  rw [← generationFields_limited, List.isEmpty_iff.mp empty] at set
  cases set

/-- A body that keeps the sampling parameters of a request in one field, which it has if there are
any. -/
structure IsNested (fields : Dictionary Json) (request : Request) : Prop where
  generation : Dictionary.get? "generationConfig" fields = (generation? request).map Json.object
  completion : Dictionary.get? "max_completion_tokens" fields = none
  contents : (Dictionary.get? "contents" fields).isSome

/-- The capped limit stands among the sampling parameters, whether there were any or not. -/
theorem IsNested.capBody {fields : Dictionary Json} {request : Request}
    (nested : IsNested fields request) (limit : Nat) :
    capBody limit fields = Dictionary.insert "generationConfig"
      (.object (Wire.GenerateContent.generationFields (limited limit request))) fields := by
  rw [generationFields_limited, ← capField_of_reads (reads_generationFields request)]
  have generation := nested.generation
  by_cases empty : (Wire.GenerateContent.generationFields request).isEmpty
  · -- There is no limit among no parameters, so the field is made for the cap alone.
    rw [generation?, if_pos empty] at generation
    rw [OutputLimit.capBody, generation, nested.completion, if_pos nested.contents,
      List.isEmpty_iff.mp empty]
    rfl
  · rw [generation?, if_neg empty] at generation
    rw [OutputLimit.capBody, generation]
    rfl

/-- The fields about tools. -/
def toolFields (request : Request) : List (String × Json) :=
  optionalField "toolConfig" id (request.toolChoice.bind Wire.GenerateContent.toolConfig?) ++
    (if (request.tools.getD []).isEmpty then []
      else [("tools", .array (Wire.GenerateContent.toolList (request.tools.getD [])))])

theorem keys_toolFields (request : Request) :
    ((toolFields request).map Prod.fst).Sublist ["toolConfig", "tools"] := by
  rw [toolFields, List.map_append]
  exact (keys_optionalField "toolConfig" _ _).append (keys_ite (List.nil_sublist _) (.refl _))

/-- The fields stand in the order of their names. -/
theorem ofRequest_eq (request : Request) :
    Wire.GenerateContent.ofRequest request = .object (Dictionary.ofList
      ([("contents", .array (Wire.GenerateContent.systemTurn request.system ++
          Wire.GenerateContent.turns [] request.messages))] ++
        (optionalField "generationConfig" .object (generation? request) ++
          toolFields request))) := by
  have generation : (if (Wire.GenerateContent.generationFields request).isEmpty then []
      else [("generationConfig", .object (Wire.GenerateContent.generationFields request))]) =
        optionalField "generationConfig" .object (generation? request) := by
    rw [generation?]
    split <;> rfl
  rw [Dictionary.ofList_of_isSorted]
  · simp only [Wire.GenerateContent.ofRequest, toolFields, List.append_assoc, generation]
  · have keys := (List.Sublist.refl ["contents"]).append
      ((keys_optionalField "generationConfig" .object (generation? request)).append
        (keys_toolFields request))
    rw [← List.map_append] at keys
    exact List.Pairwise.sublist keys (by decide)

theorem exists_isNested (request : Request) :
    ∃ fields, Wire.GenerateContent.ofRequest request = .object fields ∧ IsNested fields request ∧
      ∀ limit, Wire.GenerateContent.ofRequest (limited limit request) =
        .object (Dictionary.insert "generationConfig"
          (.object (Wire.GenerateContent.generationFields (limited limit request))) fields) := by
  have others (name : String) (apart : name ∉ ["toolConfig", "tools"]) :
      Dictionary.get? name (Dictionary.ofList (toolFields request)) = none := by
    rw [Option.eq_none_iff_forall_ne_some]
    intro value found
    have key : name ∈ (toolFields request).map Prod.fst :=
      List.mem_map_of_mem (Dictionary.mem_of_get?_ofList found)
    exact apart ((keys_toolFields request).subset key)
  refine ⟨_, ofRequest_eq request, ?nested, ?limited⟩
  case nested =>
    constructor
    all_goals
      simp [Dictionary.get?_ofList_append, Json.get?_ofList_optionalField, others]
  case limited =>
    intro limit
    rw [Json.insert_ofList_optionalField (others _ (by decide)), ofRequest_eq,
      generation?_limited]
    rfl

theorem contentsShape_caps (limit : Nat) (request : Request) :
    contentsShape.Caps limit request := by
  obtain ⟨fields, converted, nested, set⟩ := exists_isNested request
  constructor
  case capped =>
    refine ⟨fields, converted, ?_⟩
    rw [nested.capBody]
    exact (set limit).symm
  case kept =>
    change valueAt? ["generationConfig", "maxOutputTokens"]
      (Wire.GenerateContent.ofRequest _) = _
    rw [set, generationFields_limited]
    simp [valueAt?, Json.get?]

/-! ## Stages -/

/-- The form of the bodies of a family. -/
def familyShape : Wire.Vertex.Family → Shape
  | .gemini => contentsShape
  | .anthropic => messagesShape

theorem familyShape_convert (family : Wire.Vertex.Family) :
    (familyShape family).convert = Wire.Vertex.body family := by
  cases family <;> rfl

/-- The form of what a stage sends, if it is one that converts requests. -/
def shape? (context : Context) : Stage → Option Shape
  | .openai => some completionsShape
  | .gemini => some contentsShape
  | .vertex families => some (familyShape (Wire.Vertex.familyOf families context.model))
  | _ => none

section

variable {stage : Stage} {context : Context} {shape : Shape}

theorem caps_of_shape? (converts : shape? context stage = some shape) (limit : Nat)
    (request : Request) : shape.Caps limit request := by
  cases stage with
  | openai =>
      cases converts
      exact completionsShape_caps limit request
  | gemini =>
      cases converts
      exact contentsShape_caps limit request
  | vertex families =>
      cases converts
      cases Wire.Vertex.familyOf families context.model with
      | gemini => exact contentsShape_caps limit request
      | anthropic => exact messagesShape_caps limit request
  | anthropic | maxtoken | cleancache | enhancetool => cases converts

/-- Moving the key does not look at the body. -/
theorem moveBearer_body (outbound : Outbound) (body : Json) (header : String) :
    { outbound with body := body }.moveBearer header =
      { outbound.moveBearer header with body := body } := by
  have same : { outbound with body := body }.header? "authorization" =
      outbound.header? "authorization" := rfl
  rw [Outbound.moveBearer, Outbound.moveBearer, Outbound.takeBearer, Outbound.takeBearer, same]
  cases outbound.header? "authorization" <;> rfl

/-- A stage that converts requests sends what the request becomes, and the rest of what it sends and
notes does not depend on the body. -/
theorem exists_changeRequest (converts : shape? context stage = some shape) (outbound : Outbound) :
    ∃ (dressed : Outbound) (noted : Context), ∀ body request,
      Request.decode? body = some request →
        stage.changeRequest { outbound with body := body } context =
          (.ok { dressed with body := shape.convert request }, noted) := by
  cases stage with
  | openai =>
      cases converts
      refine ⟨outbound, context, ?_⟩
      intro body request read
      rw [Stage.changeRequest, Wire.ChatCompletions.toWire, canonicalRequest, read]
      rfl
  | gemini =>
      cases converts
      let address := outbound.baseUrl ++ "/" ++ context.model ++ ":" ++
        Wire.GenerateContent.method context.stream
      refine ⟨{ outbound with url := address }.moveBearer "x-goog-api-key", context, ?_⟩
      intro body request read
      rw [← moveBearer_body, Stage.changeRequest, Wire.GenerateContent.toWire, canonicalRequest,
        read]
      rfl
  | vertex families =>
      cases converts
      let family := Wire.Vertex.familyOf families context.model
      let address := outbound.baseUrl ++ "/publishers/" ++ Wire.Vertex.publisher family ++
        "/models/" ++ context.model ++ ":" ++ Wire.Vertex.method family context.stream
      let metadata := Dictionary.insert Wire.Vertex.familyKey (.string family.name) context.metadata
      refine ⟨{ outbound with url := address }, { context with metadata }, ?_⟩
      intro body request read
      rw [familyShape_convert, Stage.changeRequest, Wire.Vertex.toWire, canonicalRequest, read]
      rfl
  | anthropic | maxtoken | cleancache | enhancetool => cases converts

/-- What a stage has changed goes on to the next one. -/
theorem requestThrough_cons {outbound changed : Outbound} {noted : Context}
    (first : stage.changeRequest outbound context = (.ok changed, noted)) (rest : List Stage) :
    Chain.requestThrough outbound context (stage :: rest) =
      Chain.requestThrough changed noted rest := by
  rw [Chain.requestThrough, first]

/-- A cap before a stage that converts requests and the same cap behind it send the same, with the
smaller of the cap and the limit of the request, or the cap where the request has no limit. -/
theorem applyRequest_limit_comm (converts : shape? context stage = some shape) {limit : Nat}
    (fits : limit < 2 ^ 32) {fields : Dictionary Json} {request : Request}
    (canonical : IsCanonical fields request) (url : String) (headers : Dictionary String) :
    ∃ (sent : Outbound) (noted : Context),
      Chain.applyRequest ⟨[.maxtoken limit, stage]⟩ ⟨url, headers, .object fields⟩ context =
        (.ok sent, noted) ∧
      Chain.applyRequest ⟨[stage, .maxtoken limit]⟩ ⟨url, headers, .object fields⟩ context =
        (.ok sent, noted) ∧
      valueAt? shape.path sent.body = some (.ofNat (limitOf limit request)) := by
  obtain ⟨dressed, noted, changed⟩ := exists_changeRequest converts ⟨url, headers, .object fields⟩
  obtain ⟨⟨made, converted, capped⟩, kept⟩ := caps_of_shape? converts limit request
  refine ⟨{ dressed with body := shape.convert (limited limit request) }, noted, ?_, ?_, kept⟩
  · have first : (Stage.maxtoken limit).changeRequest ⟨url, headers, .object fields⟩ context =
        (.ok ⟨url, headers, .object (capBody limit fields)⟩, context) := rfl
    have second := changed _ _ (canonical.decode?_capBody (decide_eq_true fits))
    rw [Chain.applyRequest, requestThrough_cons first, requestThrough_cons second,
      Chain.requestThrough]
  · have first := changed _ _ canonical.decoded
    have second : (Stage.maxtoken limit).changeRequest
        { dressed with body := shape.convert request } noted =
          (.ok { dressed with body := shape.convert (limited limit request) }, noted) := by
      rw [converted, ← capped]
      rfl
    rw [Chain.applyRequest, requestThrough_cons first, requestThrough_cons second,
      Chain.requestThrough]

/-- A request for more than the cap, to a model of a named family. -/
theorem applyRequest_limit_comm_family :
    let request : Request := { Request.ofMessages "pro" [.user "Hi"] with maxTokens := some 4096 }
    let context : Context := ⟨default, "cloud", "pro", false, []⟩
    let provider : Stage := .vertex [("pro", .gemini)]
    let headers := [("authorization", "Bearer k")]
    shape? context provider = some contentsShape ∧ 1024 < 2 ^ 32 ∧
      ∃ fields, request.encode.normalize = .object fields ∧ IsCanonical fields request ∧
        ∃ sent noted,
          Chain.applyRequest ⟨[.maxtoken 1024, provider]⟩
            ⟨"https://api.test", headers, .object fields⟩ context = (.ok sent, noted) ∧
          Chain.applyRequest ⟨[provider, .maxtoken 1024]⟩
            ⟨"https://api.test", headers, .object fields⟩ context = (.ok sent, noted) ∧
          valueAt? ["generationConfig", "maxOutputTokens"] sent.body = some (.ofNat 1024) := by
  intro request context provider headers
  have regular : request.IsRegular := by
    constructor
    case messages => simp [request, Request.ofMessages, Message.user, Content.IsRegular]
    case maxTokens => simp [request, Word.fits, Word.size]
    all_goals simp [request, Request.ofMessages, Json.IsGiven]
  obtain ⟨fields, written, canonical⟩ := exists_isCanonical (Request.decode?_encode regular)
  have converts : shape? context provider = some contentsShape := rfl
  exact ⟨converts, by decide, fields, written, canonical,
    applyRequest_limit_comm converts (by decide) canonical "https://api.test" headers⟩

end

end ChatGateway.OutputLimit
