import ChatGateway.Attachment.Cache
import ChatGateway.Config.Tree
import ChatGateway.Resilience.Ledger

/-!
# Configuration

The providers with their keys, models and transformer stages, the routes, and the settings of
the parts of the gateway.  Everything but the providers' names, addresses and keys has a
default.
-/

namespace ChatGateway.Config

/-- A stage by name, with options where it is given as a pair. -/
structure StageSpec where
  name : String
  options : Option (Dictionary Json)
  deriving Inhabited

/-- How the stages of a model join those of its provider. -/
inductive ChainPolicy where
  | append
  | replace
  deriving DecidableEq, Repr, Inhabited

/-- The stages of a provider. -/
structure TransformerSettings where
  stages : List StageSpec
  models : Dictionary (List StageSpec)
  policy : ChainPolicy
  deriving Inhabited

/-- A provider. -/
structure Provider where
  name : String
  baseUrl : String
  keys : List Secret
  models : List String
  transformer : TransformerSettings
  deriving Inhabited

/-- The targets of routes, each written `provider,model`, and what decides between them. -/
structure RoutingRules where
  fallback : Option String
  think : Option String
  background : Option String
  longContext : Option String
  webSearch : Option String
  image : Option String
  /-- A request with more tokens is a long one. -/
  longContextThreshold : Nat
  /-- A model whose name matches is asked for background work. -/
  backgroundModelPattern : String
  /-- Whether requests with images go a way of their own. -/
  imageRouting : Bool
  /-- Whether such a request keeps its images. -/
  forceInlineImages : Bool
  deriving DecidableEq, Repr, Inhabited

/-- How providers are connected to. -/
structure ConnectionSettings where
  /-- In milliseconds. -/
  connectTimeout : Nat
  /-- In milliseconds. -/
  requestTimeout : Nat
  idleConnections : Nat
  /-- In seconds. -/
  keepalive : Nat
  proxyUrl : Option String
  deriving DecidableEq, Repr, Inhabited

/-- Everything a gateway is set up with. -/
structure GatewaySettings where
  providers : List Provider
  router : RoutingRules
  resilience : ResilienceSettings
  attachments : Attachment.Settings
  connection : ConnectionSettings
  deriving Inhabited

/-! ## Defaults -/

/-- No stages. -/
def TransformerSettings.standard : TransformerSettings := ⟨[], [], .append⟩

/-- No routes. -/
def RoutingRules.standard : RoutingRules where
  fallback := none
  think := none
  background := none
  longContext := none
  webSearch := none
  image := none
  longContextThreshold := 60000
  backgroundModelPattern := "(?i)haiku"
  imageRouting := true
  forceInlineImages := false

/-- Ten seconds to connect, ten minutes to answer. -/
def ConnectionSettings.standard : ConnectionSettings := ⟨10000, 600000, 10, 90, none⟩

/-! ## Parts that other modules define -/

/-- Field names that stand for themselves alone. -/
def plainNames (name : String) : String := name

/-- Reads the settings of a breaker. -/
def decodeBreaker? (dialect : Dialect) (tree : Tree) : Option Breaker.Settings := do
  let source ← tree.source? dialect
    ["failure_threshold", "success_threshold", "timeout_duration_ms"] plainNames
  let standard := Breaker.Settings.standard
  some
    { failureThreshold :=
        ← source.withDefault "failure_threshold" standard.failureThreshold (Tree.nat? 32)
      successThreshold :=
        ← source.withDefault "success_threshold" standard.successThreshold (Tree.nat? 32)
      openTime := ← source.withDefault "timeout_duration_ms" standard.openTime (Tree.nat? 64) }

/-- Writes the settings of a breaker. -/
def encodeBreaker (settings : Breaker.Settings) : Json :=
  .object [("failure_threshold", .ofNat settings.failureThreshold),
    ("success_threshold", .ofNat settings.successThreshold),
    ("timeout_duration_ms", .ofNat settings.openTime)]

/-- Reads the settings of a key ring. -/
def decodeKeyRing? (dialect : Dialect) (tree : Tree) : Option KeyRing.Settings := do
  let source ← tree.source? dialect ["base_delay_ms", "max_delay_ms"] plainNames
  let standard := KeyRing.Settings.standard
  some
    { base := ← source.withDefault "base_delay_ms" standard.base (Tree.nat? 64)
      limit := ← source.withDefault "max_delay_ms" standard.limit (Tree.nat? 64) }

/-- Writes the settings of a key ring. -/
def encodeKeyRing (settings : KeyRing.Settings) : Json :=
  .object [("base_delay_ms", .ofNat settings.base), ("max_delay_ms", .ofNat settings.limit)]

/-- Reads a retry policy. -/
def decodeRetryPolicy? (dialect : Dialect) (tree : Tree) : Option RetryPolicy := do
  let source ← tree.source? dialect
    ["retries", "factor", "min_timeout_ms", "max_timeout_ms", "jitter_factor"] plainNames
  let standard := RetryPolicy.standard
  some
    { retries := ← source.withDefault "retries" standard.retries (Tree.nat? 32)
      factor := ← source.withDefault "factor" standard.factor Tree.double?
      shortest := ← source.withDefault "min_timeout_ms" standard.shortest (Tree.nat? 64)
      longest := ← source.withDefault "max_timeout_ms" standard.longest (Tree.nat? 64)
      jitter := ← source.withDefault "jitter_factor" standard.jitter Tree.double? }

/-- Writes a floating-point number; JSON has none that is not finite. -/
def encodeDouble : Extended → Json
  | .finite value => .number (.double value)
  | _ => .null

/-- Writes a retry policy. -/
def encodeRetry (policy : RetryPolicy) : Json :=
  .object [("retries", .ofNat policy.retries), ("factor", encodeDouble policy.factor),
    ("min_timeout_ms", .ofNat policy.shortest), ("max_timeout_ms", .ofNat policy.longest),
    ("jitter_factor", encodeDouble policy.jitter)]

/-- Reads the resilience settings. -/
def decodeResilience? (dialect : Dialect) (tree : Tree) : Option ResilienceSettings := do
  let source ← tree.source? dialect ["circuit_breaker", "key_rotation", "retry"] plainNames
  some
    { breaker := ← source.withDefault "circuit_breaker" .standard (decodeBreaker? dialect)
      keys := ← source.withDefault "key_rotation" .standard (decodeKeyRing? dialect)
      retry := ← source.withDefault "retry" .standard (decodeRetryPolicy? dialect) }

/-- Writes the resilience settings. -/
def encodeResilience (settings : ResilienceSettings) : Json :=
  .object [("circuit_breaker", encodeBreaker settings.breaker),
    ("key_rotation", encodeKeyRing settings.keys), ("retry", encodeRetry settings.retry)]

/-- Reads the settings of the attachment cache. -/
def decodeAttachments? (dialect : Dialect) (tree : Tree) : Option Attachment.Settings := do
  let source ← tree.source? dialect ["capacity", "ttl_secs"] plainNames
  let standard := Attachment.Settings.standard
  some
    { capacity := ← source.withDefault "capacity" standard.capacity (Tree.nat? 64)
      lifetime := ← source.withDefault "ttl_secs" standard.lifetime (Tree.nat? 64) }

/-- Writes the settings of the attachment cache. -/
def encodeAttachments (settings : Attachment.Settings) : Json :=
  .object [("capacity", .ofNat settings.capacity), ("ttl_secs", .ofNat settings.lifetime)]

/-! ## Stages and providers -/

namespace StageSpec

/-- Reads a name or a pair of a name and options. -/
def decode? : Tree → Option StageSpec
  | .sequence [name, .mapping entries] => do
      let name ← name.untypedText?
      let options ← (Tree.mapping entries).json?
      some ⟨name, options.object?⟩
  | .sequence _ => none
  | tree => tree.untypedText?.map fun name => ⟨name, none⟩

/-- Writes a name or a pair. -/
def encode (spec : StageSpec) : Json :=
  match spec.options with
  | none => .string spec.name
  | some options => .array [.string spec.name, .object options]

/-- The options of a stage, none where it is given by name. -/
def optionTable (spec : StageSpec) : Dictionary Json := spec.options.getD []

end StageSpec

namespace ChainPolicy

/-- Reads the name of a policy. -/
def decode? (dialect : Dialect) (tree : Tree) : Option ChainPolicy := do
  match ← tree.name? dialect with
  | "append" => some .append
  | "replace" => some .replace
  | _ => none

/-- The name of a policy. -/
def name : ChainPolicy → String
  | .append => "append"
  | .replace => "replace"

end ChainPolicy

namespace TransformerSettings

/-- Reads the stages of a provider. -/
def decode? (dialect : Dialect) (tree : Tree) : Option TransformerSettings := do
  let source ← tree.source? dialect ["use", "models", "model_policy"] plainNames
  some
    { stages := ← source.withDefault "use" [] (Tree.list? StageSpec.decode?)
      models := ← source.withDefault "models" []
        (Tree.dictionary? (Tree.list? StageSpec.decode?))
      policy := ← source.withDefault "model_policy" .append (ChainPolicy.decode? dialect) }

/-- Writes the stages of a provider. -/
def encode (settings : TransformerSettings) : Json :=
  .object ([("use", .array (settings.stages.map StageSpec.encode))] ++
    (if settings.models.isEmpty then []
      else
        [("models", .object (settings.models.map fun entry =>
          (entry.1, .array (entry.2.map StageSpec.encode))))]) ++
    [("model_policy", .string settings.policy.name)])

end TransformerSettings

namespace Provider

/-- Reads one key or a list of keys. -/
def decodeKeys? : Tree → Option (List Secret)
  | .sequence items => (items.mapM Tree.untypedText?).map fun keys => keys.map Secret.mk
  | tree => tree.untypedText?.map fun key => [⟨key⟩]

/-- A single key may be given under a name of its own. -/
def canonicalName (name : String) : String :=
  if name = "api_key" then "api_keys" else name

/-- Reads a provider. -/
def decode? (dialect : Dialect) (tree : Tree) : Option Provider := do
  let source ← tree.source? dialect
    ["name", "base_url", "api_keys", "models", "transformer"] canonicalName
  some
    { name := ← source.required "name" Tree.text?
      baseUrl := ← source.required "base_url" Tree.text?
      keys := ← source.required "api_keys" decodeKeys?
      models := ← source.withDefault "models" [] (Tree.list? Tree.text?)
      transformer :=
        ← source.withDefault "transformer" .standard (TransformerSettings.decode? dialect) }

/-- Writes a provider. -/
def encode (provider : Provider) : Json :=
  .object [("name", .string provider.name), ("base_url", .string provider.baseUrl),
    ("api_keys", .array (provider.keys.map fun key => .string key.text)),
    ("models", .array (provider.models.map .string)),
    ("transformer", provider.transformer.encode)]

/-- Whether a provider declares a model. -/
def serves (provider : Provider) (model : String) : Bool := provider.models.contains model

end Provider

namespace RoutingRules

/-- The names of the fields. -/
def fieldNames : List String :=
  ["default", "think", "background", "longContext", "webSearch", "image", "longContextThreshold",
    "backgroundModelPattern", "imageRouting", "forceInlineImages"]

/-- Reads the routes. -/
def decode? (dialect : Dialect) (tree : Tree) : Option RoutingRules := do
  let source ← tree.source? dialect fieldNames plainNames
  some
    { fallback := ← source.optional "default" Tree.text?
      think := ← source.optional "think" Tree.text?
      background := ← source.optional "background" Tree.text?
      longContext := ← source.optional "longContext" Tree.text?
      webSearch := ← source.optional "webSearch" Tree.text?
      image := ← source.optional "image" Tree.text?
      longContextThreshold := ← source.withDefault "longContextThreshold"
        standard.longContextThreshold (Tree.nat? 64)
      backgroundModelPattern := ← source.withDefault "backgroundModelPattern"
        standard.backgroundModelPattern Tree.text?
      imageRouting := ← source.withDefault "imageRouting" standard.imageRouting Tree.bool?
      forceInlineImages :=
        ← source.withDefault "forceInlineImages" standard.forceInlineImages Tree.bool? }

/-- Writes the routes. -/
def encode (rules : RoutingRules) : Json :=
  .object [("default", .ofOption .string rules.fallback),
    ("think", .ofOption .string rules.think),
    ("background", .ofOption .string rules.background),
    ("longContext", .ofOption .string rules.longContext),
    ("webSearch", .ofOption .string rules.webSearch),
    ("image", .ofOption .string rules.image),
    ("longContextThreshold", .ofNat rules.longContextThreshold),
    ("backgroundModelPattern", .string rules.backgroundModelPattern),
    ("imageRouting", .bool rules.imageRouting),
    ("forceInlineImages", .bool rules.forceInlineImages)]

/-- Every slot with its target, in the order in which they are checked. -/
def slots (rules : RoutingRules) : List (String × Option String) :=
  [("default", rules.fallback), ("think", rules.think), ("background", rules.background),
    ("longContext", rules.longContext), ("webSearch", rules.webSearch), ("image", rules.image)]

end RoutingRules

/-- The provider and the model of a target `provider,model`. -/
def parseTarget? (target : String) : Option (String × String) :=
  (Text.splitAt? "," target).bind fun parts =>
    let provider := Text.trim parts.1
    let model := Text.trim parts.2
    if provider.isEmpty ∨ model.isEmpty then none else some (provider, model)

namespace ConnectionSettings

/-- Reads the connection settings. -/
def decode? (dialect : Dialect) (tree : Tree) : Option ConnectionSettings := do
  let source ← tree.source? dialect
    ["connect_timeout_ms", "request_timeout_ms", "max_idle_per_host", "keepalive_secs",
      "proxy_url"] plainNames
  some
    { connectTimeout :=
        ← source.withDefault "connect_timeout_ms" standard.connectTimeout (Tree.nat? 64)
      requestTimeout :=
        ← source.withDefault "request_timeout_ms" standard.requestTimeout (Tree.nat? 64)
      idleConnections :=
        ← source.withDefault "max_idle_per_host" standard.idleConnections (Tree.nat? 64)
      keepalive := ← source.withDefault "keepalive_secs" standard.keepalive (Tree.nat? 64)
      proxyUrl := ← source.optional "proxy_url" Tree.text? }

/-- Writes the connection settings. -/
def encode (settings : ConnectionSettings) : Json :=
  .object [("connect_timeout_ms", .ofNat settings.connectTimeout),
    ("request_timeout_ms", .ofNat settings.requestTimeout),
    ("max_idle_per_host", .ofNat settings.idleConnections),
    ("keepalive_secs", .ofNat settings.keepalive),
    ("proxy_url", .ofOption .string settings.proxyUrl)]

end ConnectionSettings

namespace GatewaySettings

/-- Reads a whole configuration. -/
def decode? (dialect : Dialect) (tree : Tree) : Option GatewaySettings := do
  let source ← tree.source? dialect
    ["providers", "router", "resilience", "attachments", "connection"] plainNames
  some
    { providers := ← source.withDefault "providers" [] (Tree.list? (Provider.decode? dialect))
      router := ← source.withDefault "router" .standard (RoutingRules.decode? dialect)
      resilience := ← source.withDefault "resilience" .standard (decodeResilience? dialect)
      attachments := ← source.withDefault "attachments" .standard (decodeAttachments? dialect)
      connection :=
        ← source.withDefault "connection" .standard (ConnectionSettings.decode? dialect) }

/-- Writes a whole configuration, keys in clear. -/
def encode (settings : GatewaySettings) : Json :=
  .object [("providers", .array (settings.providers.map Provider.encode)),
    ("router", settings.router.encode), ("resilience", encodeResilience settings.resilience),
    ("attachments", encodeAttachments settings.attachments),
    ("connection", settings.connection.encode)]

/-- The first provider of a name. -/
def provider? (settings : GatewaySettings) (name : String) : Option Provider :=
  settings.providers.find? fun provider => provider.name == name

end GatewaySettings

end ChatGateway.Config
