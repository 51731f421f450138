import ChatGateway.Message.Response

/-!
# Failures

Every way in which a request can fail, with the text a caller sees, the status the gateway
answers with, and which failures speak against the provider.
-/

namespace ChatGateway

/-- Where a connection failed. -/
inductive NetworkFault where
  | connect
  | timeout
  | dns
  | body
  | other
  deriving DecidableEq, Repr, Inhabited

/-- Why a request failed. -/
inductive Failure where
  /-- The gateway cannot serve the request as it is set up. -/
  | configuration (message : String)
  /-- The provider answered with a failing status.  `details` is its body where that was JSON. -/
  | api (status : Nat) (provider model message : String) (details : Option Json)
  /-- No complete answer arrived. -/
  | network (fault : NetworkFault) (message : String)
  /-- The provider may not be called now. -/
  | unavailable (provider reason : String)
  /-- A body does not have the shape that a stage expects. -/
  | transform (stage message : String)
  /-- The caller went away. -/
  | cancelled
  deriving Inhabited

namespace NetworkFault

/-- The name of a fault. -/
def name : NetworkFault → String
  | .connect => "connect"
  | .timeout => "timeout"
  | .dns => "dns"
  | .body => "body"
  | .other => "other"

end NetworkFault

namespace Failure

/-- The text a caller sees. -/
def message : Failure → String
  | .configuration text => "Configuration error: " ++ text
  | .api status provider model text _ =>
      "API error from " ++ provider ++ "/" ++ model ++ " (status " ++ toString status ++ "): " ++
        text
  | .network fault text => "Network error (" ++ fault.name ++ "): " ++ text
  | .unavailable provider reason => "Provider '" ++ provider ++ "' is unavailable: " ++ reason
  | .transform stage text => "Transform error in stage '" ++ stage ++ "': " ++ text
  | .cancelled => "Request cancelled"

/-- The status of the provider's answer. -/
def providerStatus? : Failure → Option Nat
  | .api status _ _ _ _ => some status
  | _ => none

/-- Whether a failure shows that the provider is unwell.  Only these reach its breaker. -/
def countsAgainstProvider : Failure → Bool
  | .api status _ _ _ _ => decide (500 ≤ status)
  | .network _ _ => true
  | _ => false

/-- The status the gateway answers with. -/
def statusCode : Failure → Nat
  | .configuration _ => 400
  | .api status _ _ _ _ => status
  | .network .timeout _ => 504
  | .network _ _ => 502
  | .unavailable _ _ => 503
  | .transform _ _ => 502
  | .cancelled => 499

/-- The kind of failure that an error answer names. -/
def kind : Failure → String
  | .configuration _ => "invalid_request_error"
  | .api status _ _ _ _ =>
      if status = 429 then "rate_limit_error"
      else if status = 401 ∨ status = 403 then "authentication_error"
      else if 500 ≤ status then "api_error"
      else "invalid_request_error"
  | .network _ _ => "api_error"
  | .unavailable _ _ => "overloaded_error"
  | .transform _ _ => "api_error"
  | .cancelled => "cancelled"

/-- The error answer for a failure. -/
def errorBody (failure : Failure) : ErrorBody := ⟨failure.kind, failure.message⟩

end Failure

end ChatGateway
