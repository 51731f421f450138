/-!
# Secrets

A provider's key.  It is never shown whole: logs see at most its ends.
-/

namespace ChatGateway

/-- A text that is not to be shown. -/
structure Secret where
  text : String
  deriving DecidableEq, Inhabited

namespace Secret

/-- What stands for a secret wherever it would be shown. -/
def mask : String := "[REDACTED]"

/-- Whether there is no key. -/
def isEmpty (secret : Secret) : Bool := secret.text.isEmpty

/-- The ends of a long ASCII secret; the mark `sk-` counts as one end. -/
def ends (secret : Secret) : String :=
  let characters := secret.text.toList
  let length := characters.length
  if secret.isEmpty then "[EMPTY]"
  else if length ≤ 8 ∨ !(characters.all fun character => decide (character.toNat < 128)) then mask
  else
    let (front, back) := if secret.text.startsWith "sk-" then (3, 4) else (2, 2)
    String.ofList (characters.take front) ++ "..." ++
      String.ofList (characters.drop (length - back))

end Secret

end ChatGateway
