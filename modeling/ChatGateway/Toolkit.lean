/-!
# What a gateway takes from elsewhere

Addresses and patterns are read, and tokens are counted, by tools that a gateway is given.  It relies
on nothing but their answers.
-/

namespace ChatGateway

/-- The tools that a gateway is given. -/
structure Toolkit where
  /-- The scheme of an absolute URL, or why a text is none. -/
  scheme : String → Except String String
  /-- Whether connections can go through a proxy at an address, or why they cannot. -/
  proxy : String → Except String Unit
  /-- Whether a text has a part that a pattern describes, or why the pattern is none. -/
  pattern : String → Except String (String → Bool)
  /-- The number of tokens of a text that is not empty, if a vocabulary could be loaded. -/
  vocabulary : Option (String → Nat)
  deriving Inhabited

end ChatGateway
