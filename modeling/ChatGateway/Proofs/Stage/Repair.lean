import ChatGateway.Proofs.Dictionary
import ChatGateway.Proofs.Json.Layout
import ChatGateway.Stage.ToolRepair
import ChatGateway.Wire.ChatCompletions

/-!
# Repairing arguments before they are read

Arguments that are repaired before they are read are a text, which becomes the text of what the
repair makes of it.  An answer whose arguments were repaired where they stand is decoded as the
answer itself, except for these texts.
-/

namespace ChatGateway.ToolRepair

open Wire.ChatCompletions (readArguments)

/-! ## Texts of arguments -/

/-- A repaired value is one that some text stands for. -/
theorem isReadable_of_repair? {text : String} {value : Json}
    (repaired : repair? text = some value) : value.IsReadable := by
  rw [repair?] at repaired
  split at repaired
  · cases repaired
    exact Json.isReadable_emptyObject
  · dsimp only at repaired
    split at repaired
    · rename_i parsed
      cases repaired
      exact Json.isReadable_of_parse? parsed
    · split at repaired
      · rename_i parsed
        cases repaired
        exact Json.isReadable_of_parse? parsed
      · exact Json.isReadable_of_parse? (Option.ite_none_right_eq_some.mp repaired).2

/-- A text of arguments after the repair. -/
def mendText (text : String) : String :=
  if (Json.parse? text).isSome then text else ((repair? text).map Json.render).getD text

theorem repairArguments_string (text : String) :
    repairArguments (.string text) = .string (mendText text) := by
  rw [repairArguments, mendText]
  split <;> rfl

/-! ## Blank texts -/

theorem lex_of_isBlank {text : List Char}
    (blank : ∀ character ∈ text, Text.isBlank character = true) :
    Json.lex .between text = none ∨ Json.lex .between text = some [] := by
  induction text with
  | nil => exact .inr rfl
  | cons character rest ih =>
      rw [List.forall_mem_cons] at blank
      rw [Json.lex, Json.lexStep]
      rcases Json.lexBetween_of_isBlank blank.1 with refused | skipped
      · exact .inl (by rw [refused]; rfl)
      · rw [skipped]
        rcases ih blank.2 with refused | skipped
        · exact .inl (by simp [refused])
        · exact .inr (by simp [skipped])

/-- A blank text is no JSON. -/
theorem parse?_of_isBlankText {text : String} (blank : Text.isBlankText text = true) :
    Json.parse? text = none := by
  rw [Json.parse?, Json.parseVerbatim?]
  rcases lex_of_isBlank (List.all_eq_true.mp blank) with refused | skipped
  · rw [refused]
    rfl
  · rw [skipped]
    rfl

theorem repair?_of_isBlankText {text : String} (blank : Text.isBlankText text = true) :
    repair? text = some (.object []) := by
  have empty : text.toList.dropWhile Text.isBlank = [] :=
    List.dropWhile_eq_nil_iff.mpr (List.all_eq_true.mp blank)
  rw [repair?, Text.trimChars, empty]
  rfl

/-! ## Reading before or after the repair -/

/-- What becomes of a text of arguments does not depend on whether it is repaired before it is read
or afterwards.  `shown` tells whether the first repair finds it. -/
structure MeetsRepair (shown : Bool) (text : String) : Prop where
  quoted : ∀ inner, Json.parse? text = some (.string inner) →
    repairInput (.string inner) = .string inner
  hidden : shown = false → Json.parse? text = none → Text.isBlankText text = false →
    repairInput (.string text) = .string text

theorem readArguments_of_parse? {text : String} {value : Json}
    (parsed : Json.parse? text = some value) : readArguments text = value := by
  have filled : Text.isBlankText text = false := by
    by_contra blank
    rw [parse?_of_isBlankText (Bool.eq_true_of_not_eq_false blank)] at parsed
    cases parsed
  rw [readArguments, filled, parsed]
  rfl

theorem readArguments_of_isBlankText {text : String} (blank : Text.isBlankText text = true) :
    readArguments text = .object [] := by
  rw [readArguments, if_pos blank]

/-- A text that is no JSON is read after the repair as what the repair makes of it. -/
theorem readArguments_mendText {text : String} (unparsed : Json.parse? text = none) :
    readArguments (mendText text) = (repair? text).getD (readArguments text) := by
  rw [mendText, unparsed]
  cases repaired : repair? text with
  | none => rfl
  | some value => exact readArguments_of_parse? (isReadable_of_repair? repaired).parse?_render

theorem readArguments_eq_repairInput_iff (shown : Bool) (text : String) :
    readArguments (if shown then mendText text else text) = repairInput (readArguments text) ↔
      MeetsRepair shown text := by
  cases parsed : Json.parse? text with
  | some value =>
      have same : (if shown then mendText text else text) = text := by
        simp [mendText, parsed]
      rw [same, readArguments_of_parse? parsed]
      constructor
      · intro equal
        refine ⟨?_, fun _ unparsed => by simp [parsed] at unparsed⟩
        intro inner quoted
        rw [parsed] at quoted
        cases quoted
        exact equal.symm
      · intro meets
        cases value with
        | string inner => exact (meets.quoted inner parsed).symm
        | null | bool | number | array | object => rfl
  | none =>
      cases blank : Text.isBlankText text with
      | true =>
          have meets : MeetsRepair shown text :=
            ⟨by simp [parsed], fun _ _ filled => by simp [blank] at filled⟩
          refine iff_of_true ?_ meets
          rw [readArguments_of_isBlankText blank]
          cases shown with
          | true =>
              rw [if_pos rfl, readArguments_mendText parsed, repair?_of_isBlankText blank]
              rfl
          | false => exact readArguments_of_isBlankText blank
      | false =>
          have kept : readArguments text = .string text := by
            rw [readArguments, blank, parsed]
            rfl
          cases shown with
          | true =>
              rw [if_pos rfl, readArguments_mendText parsed, kept]
              exact iff_of_true rfl ⟨by simp [parsed], nofun⟩
          | false =>
              rw [if_neg Bool.false_ne_true, kept]
              exact ⟨fun equal => ⟨by simp [parsed], fun _ _ _ => equal.symm⟩,
                fun meets => (meets.hidden rfl parsed blank).symm⟩

/-! ## Repairing before reading -/

section

open Json Json.Source

variable {α : Type} {decode : Json → Option α} {change : Json → Json} {mend : Option Json → α → α}

/-- The fields of an object, one of them changed. -/
def changed (name : String) (change : Json → Json) (fields : List (String × Json)) :
    List (String × Json) :=
  Dictionary.mapValues (fun key => if key = name then change else id) fields

theorem update_object (name : String) (change : Json → Json) (fields : List (String × Json)) :
    update name change (.object fields) = .object (changed name change fields) := by
  rw [update, changed, Dictionary.mapValues]
  congr 1
  apply List.map_congr_left
  intro field _
  split
  · rename_i same
    rw [← same]
  · rfl

theorem find?_changed_self (name : String) (change : Json → Json) (fields : List (String × Json)) :
    (Source.named (changed name change fields)).find? name =
      (Dictionary.get? name fields).map change := by
  rw [find?, changed, Dictionary.get?_mapValues, if_pos rfl]

theorem find?_changed_of_ne {name other : String} (different : other ≠ name)
    (change : Json → Json) (fields : List (String × Json)) :
    (Source.named (changed name change fields)).find? other = Dictionary.get? other fields := by
  rw [find?, changed, Dictionary.get?_mapValues, if_neg different, Option.map_id_fun, id]

/-- A change that neither makes nor takes away a null. -/
def KeepsNull (change : Json → Json) : Prop := ∀ value, change value = .null ↔ value = .null

theorem keepsNull_update (name : String) (change : Json → Json) :
    KeepsNull (update name change) := by
  intro value
  cases value <;> simp [update]

theorem keepsNull_updateItems (change : Json → Json) : KeepsNull (updateItems change) := by
  intro value
  cases value <;> simp [updateItems]

theorem keepsNull_repairArguments : KeepsNull repairArguments := by
  intro value
  cases value with
  | string text => simp [repairArguments_string]
  | null | bool | number | array | object => simp [repairArguments]

/-- What is decoded from a changed value is what is decoded from the value itself, mended. -/
def Mends (decode : Json → Option α) (change : Json → Json) (mend : Option Json → α → α) : Prop :=
  ∀ value, decode (change value) = (decode value).map (mend (some value))

theorem Mends.required (mends : Mends decode change mend) (name : String)
    (fields : List (String × Json)) :
    (Source.named (changed name change fields)).required name decode =
      ((Source.named fields).required name decode).map (mend (Dictionary.get? name fields)) := by
  rw [Source.required, Source.required, find?_changed_self, find?]
  cases Dictionary.get? name fields with
  | none => rfl
  | some value => exact mends value

theorem Mends.optional (mends : Mends decode change mend) (keeps : KeepsNull change) (name : String)
    (fields : List (String × Json)) :
    (Source.named (changed name change fields)).optional name decode =
      ((Source.named fields).optional name decode).map
        (Option.map (mend (Dictionary.get? name fields))) := by
  rw [Source.optional, Source.optional, withDefault, withDefault, find?_changed_self, find?]
  cases Dictionary.get? name fields with
  | none => rfl
  | some value =>
      have given {value : Json} (notNull : value ≠ .null) :
          nullable decode value = (decode value).map some := by
        rw [nullable]
        exact notNull
      by_cases null : value = .null
      · subst null
        simp [nullable, (keeps .null).mpr rfl]
      · simp [given null, given (mt (keeps value).mp null), mends value]

theorem optional_changed_of_ne {name other : String} (different : other ≠ name)
    (change : Json → Json) (fields : List (String × Json)) :
    (Source.named (changed name change fields)).optional other decode =
      (Source.named fields).optional other decode := by
  rw [Source.optional, withDefault, find?_changed_of_ne different]
  rfl

/-- Items are mended one by one. -/
theorem Mends.decodeList (mends : Mends decode change mend) :
    Mends (decodeList decode) (updateItems change) fun value =>
      List.mapIdx fun position => mend (value.bind (item? position)) := by
  intro value
  cases value with
  | array items =>
      change (items.map change).mapM decode =
        (items.mapM decode).map (List.mapIdx fun position => mend items[position]?)
      induction items with
      | nil => rfl
      | cons item rest ih =>
          rw [List.map_cons, List.mapM_cons, List.mapM_cons, mends item, ih]
          cases decode item with
          | none => rfl
          | some first =>
              cases rest.mapM decode with
              | none => rfl
              | some others => simp
  | null | bool | number | string | object => rfl

end

section

open Json Json.Source Wire.ChatCompletions

variable {α : Type} {decode : Json → Option α} {change : Json → Json} {mend : Option Json → α → α}

/-- Only objects have a field to change. -/
theorem Mends.of_object {name : String}
    (fields : ∀ fields, decode (.object (changed name change fields)) =
      (decode (.object fields)).map (mend (some (.object fields))))
    (missing : ∀ value : Json, value.get? name = none → mend (some value) = id) :
    Mends decode (update name change) mend := by
  intro value
  cases value with
  | object inside => rw [update_object, fields]
  | null | bool | number | string | array =>
      rw [missing _ rfl, Option.map_id]
      rfl

theorem mapIdx_id (items : List α) : (items.mapIdx fun _ => id) = items :=
  List.mapIdx_eq_iff.mpr fun _ => by simp

/-- The arguments of a call, where the repair looks for them. -/
def shownArguments? (call : Option Json) : Option Json :=
  (call.bind (get? "function")).bind (get? "arguments")

/-- A text of arguments after the repair, which has to find it. -/
def mendArguments (shown : Bool) (text : String) : String := if shown then mendText text else text

/-- A function with its arguments after the repair. -/
def mendFunction (value : Option Json) (function : Option String × Option String) :
    Option String × Option String :=
  (function.1, function.2.map (mendArguments (value.bind (get? "arguments")).isSome))

/-- A call after the repair. -/
def mendCall (value : Option Json) (call : ToolCall) : ToolCall :=
  { call with arguments := call.arguments.map (mendArguments (shownArguments? value).isSome) }

/-- What is said after the repair. -/
def mendSaying (value : Option Json) (saying : Saying) : Saying :=
  { saying with
    calls := saying.calls.mapIdx fun position =>
      mendCall ((value.bind (get? "tool_calls")).bind (item? position)) }

/-- A choice after the repair. -/
def mendChoice (value : Option Json) (choice : Choice) : Choice :=
  { choice with saying := mendSaying (value.bind (get? "message")) choice.saying }

/-- An answer after the repair. -/
def mendReply (value : Option Json) (reply : Reply) : Reply :=
  { reply with
    choices := reply.choices.mapIdx fun position =>
      mendChoice ((value.bind (get? "choices")).bind (item? position)) }

theorem mendArguments_false : mendArguments false = id := rfl

theorem mendArguments_true : mendArguments true = mendText := rfl

theorem mendCall_none : mendCall none = id := by
  funext call
  simp [mendCall, shownArguments?, mendArguments_false]

theorem mendSaying_none : mendSaying none = id := by
  funext saying
  simp [mendSaying, mendCall_none, mapIdx_id]

theorem mendChoice_none : mendChoice none = id := by
  funext choice
  simp [mendChoice, mendSaying_none]

theorem mends_string : Mends string? repairArguments fun _ => mendText := by
  intro value
  cases value with
  | string text =>
      rw [repairArguments_string]
      rfl
  | null | bool | number | array | object => rfl

theorem mends_function :
    Mends decodeFunction? (update "arguments" repairArguments) mendFunction := by
  refine .of_object (fun fields => ?_) (fun value missing => ?_)
  · simp only [decodeFunction?, source?, Option.bind_eq_bind, Option.bind_some,
      optional_changed_of_ne (show "name" ≠ "arguments" by decide),
      mends_string.optional keepsNull_repairArguments]
    cases found : Dictionary.get? "arguments" fields with
    | none =>
        simp [mendFunction, get?, found, mendArguments_false, Source.optional, withDefault, find?]
    | some value =>
        simp [mendFunction, get?, found, mendArguments_true, Option.map_bind, Option.bind_map]
  · funext function
    simp [mendFunction, missing, mendArguments_false]

theorem mends_call :
    Mends ToolCall.decode? (update "function" (update "arguments" repairArguments)) mendCall := by
  refine .of_object (fun fields => ?_) (fun value missing => ?_)
  · simp only [ToolCall.decode?, source?, Option.bind_eq_bind, Option.bind_some,
      Option.map_bind, Option.bind_map, Option.map_some, Function.comp_def, mendCall,
      shownArguments?, get?, optional_changed_of_ne (show "index" ≠ "function" by decide),
      optional_changed_of_ne (show "id" ≠ "function" by decide),
      mends_function.optional (keepsNull_update _ _)]
    congr! 6
  · funext call
    simp [mendCall, shownArguments?, missing, mendArguments_false]

theorem mends_saying : Mends Saying.decode?
    (update "tool_calls" (updateItems (update "function" (update "arguments" repairArguments))))
    mendSaying := by
  refine .of_object (fun fields => ?_) (fun value missing => ?_)
  · simp only [Saying.decode?, source?, Option.bind_eq_bind, Option.bind_some,
      Option.map_bind, Option.bind_map, Option.map_some, Function.comp_def, mendSaying, get?,
      optional_changed_of_ne (show "content" ≠ "tool_calls" by decide),
      optional_changed_of_ne (show "reasoning_content" ≠ "tool_calls" by decide),
      mends_call.decodeList.optional (keepsNull_updateItems _)]
    congr! 4 with _ _ _ _ calls
    cases calls <;> rfl
  · funext saying
    simp [mendSaying, missing, mendCall_none, mapIdx_id]

theorem mends_choice : Mends decodeMessageChoice? repairChoice mendChoice := by
  refine .of_object (fun fields => ?_) (fun value missing => ?_)
  · simp only [decodeMessageChoice?, source?, Option.bind_eq_bind, Option.bind_some,
      Option.map_bind, Option.bind_map, Option.map_some, Function.comp_def, mendChoice, get?,
      optional_changed_of_ne (show "finish_reason" ≠ "message" by decide), mends_saying.required]
  · funext choice
    simp [mendChoice, missing, mendSaying_none]

theorem mends_reply :
    Mends decodeResponse? (update "choices" (updateItems repairChoice)) mendReply := by
  refine .of_object (fun fields => ?_) (fun value missing => ?_)
  · simp only [decodeResponse?, source?, Option.bind_eq_bind, Option.bind_some,
      Option.map_bind, Option.bind_map, Option.map_some, Function.comp_def, mendReply, get?,
      optional_changed_of_ne (show "id" ≠ "choices" by decide),
      optional_changed_of_ne (show "model" ≠ "choices" by decide),
      optional_changed_of_ne (show "usage" ≠ "choices" by decide),
      mends_choice.decodeList.required]
  · funext reply
    simp [mendReply, missing, mendChoice_none, mapIdx_id]

/-- What is decoded from an answer after the repair is what is decoded from the answer, mended. -/
theorem decodeResponse?_repairResponse {body : Json}
    (bare : (body.get? "content").bind array? = none) :
    decodeResponse? (repairResponse body) = (decodeResponse? body).map (mendReply (some body)) := by
  rw [repairResponse, bare]
  cases listed : (body.get? "choices").bind array? with
  | some choices => exact mends_reply body
  | none =>
      change decodeResponse? body = _
      cases found : body.get? "choices" with
      | none =>
          have same : mendReply (some body) = id := by
            funext reply
            simp [mendReply, found, mendChoice_none, mapIdx_id]
          rw [same, Option.map_id, id]
      | some value =>
          have refused : decodeList decodeMessageChoice? value = none := by
            cases value with
            | array choices => simp [found, array?] at listed
            | null | bool | number | string | object => rfl
          cases body with
          | object fields =>
              have unread :
                  (named fields).required "choices" (decodeList decodeMessageChoice?) = none := by
                rw [Source.required]
                exact (congrArg (Option.bind · _) found).trans refused
              simp [decodeResponse?, source?, unread]
          | null | bool | number | string | array => cases found

end

end ChatGateway.ToolRepair
