import ChatGateway.Config.Error
import ChatGateway.Config.Schema
import ChatGateway.Toolkit

/-!
# Accepting a configuration

The fields of a configuration are checked one after the other, and the first that is not
acceptable is reported.  Routes have to lead to declared models, and stages have to be known.
-/

namespace ChatGateway.Config

/-- Rejects a field where a condition holds. -/
def reject (condition : Bool) (field : String) (fault : Fault) (hint : Option String := none) :
    Except Rejection Unit :=
  if condition then .error ⟨field, fault, hint⟩ else .ok ()

/-- The path of an item of a list. -/
def itemPath (path : String) (index : Nat) : String := path ++ "[" ++ toString index ++ "]"

variable (toolkit : Toolkit)

namespace Provider

/-- Checks the address of a provider. -/
def checkUrl (path url : String) : Except Rejection Unit :=
  match toolkit.scheme url with
  | .ok scheme =>
      reject (scheme != "http" && scheme != "https") path
        (.badUrl ("URL scheme must be http or https, got: " ++ scheme))
  | .error message => .error (.of path (.badUrl message))

/-- Checks the models of a provider from some position on, `seen` being those before. -/
def checkModels (path : String) (seen : List String) : Nat → List String → Except Rejection Unit
  | _, [] => .ok ()
  | index, model :: rest => do
      reject model.isEmpty (itemPath path index) .missing
      reject (seen.contains model) (itemPath path index) (.duplicate model)
      checkModels path (model :: seen) (index + 1) rest

/-- Checks a provider that stands at a path. -/
def check (provider : Provider) (path : String) : Except Rejection Unit := do
  reject provider.name.isEmpty (path ++ ".name") .missing
  reject (provider.name.contains ',') (path ++ ".name")
    (.malformed "Provider names cannot contain ','")
  reject (provider.keys.isEmpty || provider.keys.any Secret.isEmpty) (path ++ ".api_keys") .missing
  reject provider.baseUrl.isEmpty (path ++ ".base_url") .missing
  checkUrl toolkit (path ++ ".base_url") provider.baseUrl
  reject provider.models.isEmpty (path ++ ".models") .missing
  checkModels (path ++ ".models") [] 0 provider.models
  provider.transformer.models.forM fun entry =>
    reject (!provider.serves entry.1) (path ++ ".transformer.models." ++ entry.1)
      (.unknownReference entry.1) (some "Model-specific stages must target a declared model")

end Provider

/-- Checks the resilience settings that stand at a path. -/
def checkResilience (settings : ResilienceSettings) (path : String) : Except Rejection Unit := do
  let positive := Fault.outOfRange "Must be greater than 0"
  reject (settings.breaker.failureThreshold == 0) (path ++ ".circuit_breaker.failure_threshold")
    positive
  reject (settings.breaker.successThreshold == 0) (path ++ ".circuit_breaker.success_threshold")
    positive
  reject (decide (settings.keys.limit < settings.keys.base)) (path ++ ".key_rotation.max_delay_ms")
    (.outOfRange "Must be >= base_delay_ms")
  reject (decide (settings.retry.longest < settings.retry.shortest))
    (path ++ ".retry.max_timeout_ms") (.outOfRange "Must be >= min_timeout_ms")
  let jitter := settings.retry.jitter
  let zero := Binary.ofInt .double 0
  let one := Binary.ofInt .double 1
  reject (jitter == .undefined || jitter.less zero || one.less jitter)
    (path ++ ".retry.jitter_factor") (.outOfRange "Must be between 0.0 and 1.0")

/-- Checks the providers from some position on, `seen` being the names before. -/
def checkProviders (seen : List String) : Nat → List Provider → Except Rejection Unit
  | _, [] => .ok ()
  | index, provider :: rest => do
      let path := itemPath "providers" index
      reject (seen.contains provider.name) (path ++ ".name") (.duplicate provider.name)
      provider.check toolkit path
      checkProviders (provider.name :: seen) (index + 1) rest

/-- Checks one slot of the routes. -/
def checkSlot (settings : GatewaySettings) (slot : String) (target : String) :
    Except Rejection Unit :=
  let path := "router." ++ slot
  match parseTarget? target with
  | none => .error (.of path (.malformed "Expected \"provider,model\""))
  | some (name, model) =>
      match settings.provider? name with
      | none =>
          .error ⟨path, .unknownReference name, some "Route targets an undeclared provider"⟩
      | some provider =>
          reject (!provider.serves model) path (.unknownReference target)
            (some ("Provider '" ++ name ++ "' does not serve this model"))

/-- Checks the pattern that names models for background work. -/
def checkPattern (pattern : String) : Except Rejection Unit :=
  match toolkit.pattern pattern with
  | .ok _ => .ok ()
  | .error message => .error (.of "router.backgroundModelPattern" (.malformed message))

/-- Checks a list of stages from some position on. -/
def checkStages (known : List String) (path : String) :
    Nat → List StageSpec → Except Rejection Unit
  | _, [] => .ok ()
  | index, spec :: rest => do
      reject (!known.contains spec.name) (itemPath path index) (.unknownStage spec.name)
      checkStages known path (index + 1) rest

/-- Checks the stages of the providers from some position on. -/
def checkTransformers (known : List String) : Nat → List Provider → Except Rejection Unit
  | _, [] => .ok ()
  | index, provider :: rest => do
      let path := itemPath "providers" index ++ ".transformer"
      checkStages known (path ++ ".use") 0 provider.transformer.stages
      provider.transformer.models.forM fun entry =>
        checkStages known (path ++ ".models." ++ entry.1) 0 entry.2
      checkTransformers known (index + 1) rest

namespace GatewaySettings

/-- Checks each part of a configuration by itself. -/
def checkStructure (settings : GatewaySettings) : Except Rejection Unit := do
  reject settings.providers.isEmpty "providers" .missing
    (some "At least one provider must be configured")
  checkProviders toolkit [] 0 settings.providers
  reject (settings.router.longContextThreshold == 0) "router.longContextThreshold"
    (.outOfRange "Must be greater than 0")
  checkResilience settings.resilience "resilience"
  reject (settings.attachments.capacity == 0) "attachments.capacity"
    (.outOfRange "Must be greater than 0")

/-- Checks a configuration whose stages may have these names. -/
def check (settings : GatewaySettings) (known : List String) : Except Rejection Unit := do
  settings.checkStructure toolkit
  settings.router.slots.forM fun slot =>
    match slot.2 with
    | some target => checkSlot settings slot.1 target
    | none => .ok ()
  checkPattern toolkit settings.router.backgroundModelPattern
  checkTransformers known 0 settings.providers

end GatewaySettings

end ChatGateway.Config
