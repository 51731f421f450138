import ChatGateway.Config.Schema
import ChatGateway.Toolkit

/-!
# Connecting to providers

Connections may go through a proxy, whose address is checked before the first one is made.
-/

namespace ChatGateway.Config.ConnectionSettings

/-- The text for a proxy's address that will not do. -/
def proxyMessage (address message : String) : String :=
  "Invalid proxy URL '" ++ address ++ "': " ++ message

/-- Checks that connections can be made with these settings. -/
def checkProxy (toolkit : Toolkit) (settings : ConnectionSettings) : Except Failure Unit :=
  match settings.proxyUrl with
  | none => .ok ()
  | some address =>
      match toolkit.scheme address >>= fun _ => toolkit.proxy address with
      | .ok () => .ok ()
      | .error message => .error (.configuration (proxyMessage address message))

end ChatGateway.Config.ConnectionSettings
