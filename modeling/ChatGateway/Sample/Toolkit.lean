import ChatGateway.Sample.PatternParser
import ChatGateway.Sample.Pieces
import ChatGateway.Sample.Url
import ChatGateway.Toolkit

/-!
# A sample toolkit

Tools to try a gateway with.  They know the patterns and addresses that a configuration usually has.
Tokens are counted with whatever vocabulary is given.
-/

namespace ChatGateway

/-- Tools with a vocabulary that says of how many tokens a piece of a text is made. -/
def Toolkit.sample (weigh : List Char → Nat) : Toolkit where
  scheme := Url.schemeOf
  proxy := fun _ => .ok ()
  pattern := Pattern.compile
  vocabulary := some fun text => Tokens.weighPieces weigh 0 text.toList

end ChatGateway
