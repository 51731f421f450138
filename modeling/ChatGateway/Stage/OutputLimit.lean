import ChatGateway.Stage.Context

/-!
# Limits and cache marks in requests

A limit on the output is put where the body of the provider keeps it, and marks for the cache
are taken out wherever they stand.
-/

namespace ChatGateway.OutputLimit

/-- A limit no larger than another one; what is no number gives way. -/
def cap (limit : Nat) (value : Option Json) : Json :=
  match value.bind Json.nat? with
  | some number => .ofNat (min number limit)
  | none => .ofNat limit

/-- Caps a field of an object, setting it where it is absent. -/
def capField (limit : Nat) (name : String) (fields : Dictionary Json) : Dictionary Json :=
  Dictionary.insert name (cap limit (Dictionary.get? name fields)) fields

/-- Caps the output of a body, in the place where bodies of its kind keep the limit. -/
def capBody (limit : Nat) (fields : Dictionary Json) : Dictionary Json :=
  match (Dictionary.get? "generationConfig" fields).bind Json.object? with
  | some generation =>
      Dictionary.insert "generationConfig"
        (.object (capField limit "maxOutputTokens" generation)) fields
  | none =>
      if (Dictionary.get? "max_completion_tokens" fields).isSome then
        capField limit "max_completion_tokens" fields
      else if (Dictionary.get? "contents" fields).isSome then
        Dictionary.insert "generationConfig"
          (.object [("maxOutputTokens", .ofNat limit)]) fields
      else capField limit "max_tokens" fields

/-- Caps the output of a request. -/
def toWire (limit : Nat) (outbound : Outbound) : Except StageFault Outbound :=
  match outbound.body with
  | .object fields => .ok { outbound with body := .object (capBody limit fields) }
  | _ => .error .requestNotObject

end ChatGateway.OutputLimit

namespace ChatGateway.CacheMarks

mutual

/-- A value without cache marks. -/
def strip : Json → Json
  | .object fields => .object (stripFields fields)
  | .array items => .array (stripItems items)
  | other => other

/-- Fields without cache marks. -/
def stripFields : List (String × Json) → List (String × Json)
  | [] => []
  | (name, value) :: rest =>
      if name = "cache_control" then stripFields rest
      else (name, strip value) :: stripFields rest

/-- Items without cache marks. -/
def stripItems : List Json → List Json
  | [] => []
  | item :: rest => strip item :: stripItems rest

end

end ChatGateway.CacheMarks
