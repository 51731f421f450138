import ChatGateway.Routing.Router
import ChatGateway.Stage.Chain
import ChatGateway.Transport.Connection

/-!
# Setting up a gateway

A gateway is made once from a configuration that has been checked.  What changes while it serves
requests is kept apart: the health of the providers, the cached images, and the identifiers not
yet dealt out.
-/

namespace ChatGateway

/-- A stage that cannot be made, as a failure. -/
def Stage.MakeError.failure (error : Stage.MakeError) : Failure := .configuration error.message

/-- The chains of every provider and model. -/
abbrev ChainTable : Type := List ((String × String) × Chain)

/-- A gateway: its configuration, its router and its chains. -/
structure Gateway where
  settings : Config.GatewaySettings
  router : Router
  chains : ChainTable
  deriving Inhabited

/-- What changes while a gateway serves requests. -/
structure GatewayState where
  ledger : Ledger
  cache : AttachmentCache
  supply : Supply
  deriving Inhabited

namespace Gateway

/-- The chains of a provider for models of it. -/
def chainsOfModels (registry : Stage.Registry) (provider : Config.Provider) :
    List String → Except Stage.MakeError ChainTable
  | [] => .ok []
  | model :: rest => do
      let chain ← Chain.build registry provider.transformer model
      let chains ← chainsOfModels registry provider rest
      .ok (((provider.name, model), chain) :: chains)

/-- The chains of providers. -/
def chainsOf (registry : Stage.Registry) :
    List Config.Provider → Except Stage.MakeError ChainTable
  | [] => .ok []
  | provider :: rest => do
      let chains ← chainsOfModels registry provider provider.models
      let others ← chainsOf registry rest
      .ok (chains ++ others)

/-- Sets up a gateway.  `connects` says whether it makes its connections itself. -/
def make (toolkit : Toolkit) (settings : Config.GatewaySettings) (registry : Stage.Registry)
    (connects : Bool) (hook : Request → Option String) : Except Failure Gateway := do
  match settings.check toolkit registry.names with
  | .ok () => .ok ()
  | .error rejection => .error (.configuration rejection.message)
  let chains ← match chainsOf registry settings.providers with
    | .ok chains => .ok chains
    | .error error => .error error.failure
  if connects then settings.connection.checkProxy toolkit
  let router ← Router.make toolkit settings hook
  .ok ⟨settings, router, chains⟩

/-- The chain of a provider and a model. -/
def chain? (gateway : Gateway) (provider model : String) : Option Chain :=
  (gateway.chains.find? fun entry => entry.1 == (provider, model)).map Prod.snd

/-- A gateway that has not served a request. -/
def start (gateway : Gateway) (now : Nat) (cache : AttachmentCache) (supply : Supply) :
    GatewayState where
  ledger := Ledger.new gateway.settings.resilience now
    (gateway.settings.providers.map fun provider => (provider.name, provider.keys))
  cache := cache
  supply := supply

end Gateway

namespace GatewayState

/-- The image that an id names by its request and its number there. -/
def lookup (state : GatewayState) (now : Nat) (id : String) :
    Option Attachment.Payload × GatewayState :=
  match Attachment.parseId? id with
  | some (some request, number) =>
      let (payload, cache) := state.cache.lookup now request number
      (payload, { state with cache })
  | _ => (none, state)

/-- The image that an id names; an id without a request means an image of this one. -/
def lookupIn (state : GatewayState) (now : Nat) (request id : String) :
    Option Attachment.Payload × GatewayState :=
  match Attachment.parseId? id with
  | some (named, number) =>
      let (payload, cache) := state.cache.lookup now (named.getD request) number
      (payload, { state with cache })
  | none => (none, state)

end GatewayState

end ChatGateway
