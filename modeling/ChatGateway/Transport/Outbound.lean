import ChatGateway.Json.Value

/-!
# Outbound requests

A request as it goes to a provider.  Header names do not depend on case and are kept in lower
case.
-/

namespace ChatGateway

/-- An address, headers and a JSON body. -/
structure Outbound where
  url : String
  headers : Dictionary String
  body : Json
  deriving Inhabited

namespace Outbound

/-- A request without headers. -/
def ofBody (url : String) (body : Json) : Outbound := ⟨url, [], body⟩

/-- Sets a header. -/
def setHeader (outbound : Outbound) (name value : String) : Outbound :=
  { outbound with headers := Dictionary.insert name.toLower value outbound.headers }

/-- Removes a header. -/
def eraseHeader (outbound : Outbound) (name : String) : Outbound :=
  { outbound with headers := Dictionary.erase name.toLower outbound.headers }

/-- The value of a header. -/
def header? (outbound : Outbound) (name : String) : Option String :=
  Dictionary.get? name.toLower outbound.headers

/-- The request as a value. -/
def encode (outbound : Outbound) : Json :=
  .object [("url", .string outbound.url),
    ("headers", .object (outbound.headers.map fun header => (header.1, .string header.2))),
    ("body", outbound.body)]

end Outbound

end ChatGateway
