/-!
# Errors of a configuration

Why a configuration is not accepted, with the texts that tell.
-/

namespace ChatGateway.Config

/-- What is wrong with a field. -/
inductive Fault where
  | missing
  | outOfRange (bound : String)
  | malformed (reason : String)
  | duplicate (value : String)
  | badUrl (reason : String)
  | unknownReference (reference : String)
  | unknownStage (stage : String)
  deriving DecidableEq, Repr, Inhabited

/-- A field that is not accepted, by its path, with advice where there is some. -/
structure Rejection where
  field : String
  fault : Fault
  hint : Option String
  deriving DecidableEq, Repr, Inhabited

/-- Why a configuration cannot be loaded. -/
inductive LoadError where
  | unreadable (path reason : String)
  | unparsable (path : String) (line column : Option Nat) (reason : String)
  | rejected (rejection : Rejection)
  | missingVariable (name : String)
  deriving DecidableEq, Repr, Inhabited

namespace Fault

/-- The text for a fault. -/
def message : Fault → String
  | .missing => "missing or empty"
  | .outOfRange bound => bound
  | .malformed reason => "malformed: " ++ reason
  | .duplicate value => "'" ++ value ++ "' appears more than once"
  | .badUrl reason => "bad URL: " ++ reason
  | .unknownReference reference =>
      "'" ++ reference ++ "' does not name a configured provider or model"
  | .unknownStage stage => "no transformer stage named '" ++ stage ++ "'"

end Fault

namespace Rejection

/-- A rejection without advice. -/
def of (field : String) (fault : Fault) : Rejection := ⟨field, fault, none⟩

/-- The text for a rejection. -/
def message (rejection : Rejection) : String :=
  let advice := match rejection.hint with
    | some hint => " (" ++ hint ++ ")"
    | none => ""
  "invalid configuration at '" ++ rejection.field ++ "': " ++ rejection.fault.message ++ advice

end Rejection

namespace LoadError

/-- Where in a text an error was found. -/
def position : Option Nat → Option Nat → String
  | some line, some column => " at " ++ toString line ++ ":" ++ toString column
  | some line, none => " at line " ++ toString line
  | none, _ => ""

/-- The text for an error. -/
def message : LoadError → String
  | .unreadable path reason => "cannot read '" ++ path ++ "': " ++ reason
  | .unparsable path line column reason =>
      "cannot parse '" ++ path ++ "'" ++ position line column ++ ": " ++ reason
  | .rejected rejection => rejection.message
  | .missingVariable name => "environment variable '" ++ name ++ "' is referenced but not set"

end LoadError

end ChatGateway.Config
