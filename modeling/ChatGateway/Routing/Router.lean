import ChatGateway.Config.Validation
import ChatGateway.Failure
import ChatGateway.Routing.Directive
import ChatGateway.Routing.Images
import ChatGateway.Tokens.Estimate
import ChatGateway.Uuid

/-!
# Routing

A request goes to the provider and model that the first matching rule names.  The rules are
tried in this order: the caller's own hook, a target in place of the model, a directive in the
system prompt, an image in the latest turn, thinking, a model for background work, a long
prompt, a tool that searches the web.  A rule whose slot is empty leaves the request to the
default slot.
-/

namespace ChatGateway

/-- The rule that decided. -/
inductive RouteReason where
  | custom
  | explicit
  | subagent
  | image
  | think
  | background
  | longContext
  | webSearch
  | fallback
  deriving DecidableEq, Repr, Inhabited

/-- The name of a rule. -/
def RouteReason.name : RouteReason → String
  | .custom => "custom"
  | .explicit => "explicit"
  | .subagent => "subagent"
  | .image => "image"
  | .think => "think"
  | .background => "background"
  | .longContext => "longContext"
  | .webSearch => "webSearch"
  | .fallback => "default"

/-- Where a request goes. -/
structure RouteDecision where
  provider : String
  model : String
  reason : RouteReason
  deriving DecidableEq, Repr, Inhabited

/-- Why a request goes nowhere. -/
inductive RouteFault where
  | noRoute (reason : RouteReason)
  | malformedTarget (reason : RouteReason) (target : String)
  | unknownProvider (reason : RouteReason) (provider : String)
  | modelNotServed (reason : RouteReason) (model provider : String)
  deriving DecidableEq, Repr, Inhabited

namespace RouteFault

/-- The text for a fault. -/
def message : RouteFault → String
  | .noRoute reason =>
      "no route for '" ++ reason.name ++ "' and no default route is configured"
  | .malformedTarget reason target =>
      "invalid " ++ reason.name ++ " route '" ++ target ++ "': expected \"provider,model\""
  | .unknownProvider reason provider =>
      reason.name ++ " route references unknown provider '" ++ provider ++ "'"
  | .modelNotServed reason model provider =>
      reason.name ++ " route references model '" ++ model ++ "' which provider '" ++ provider ++
        "' does not serve"

/-- A fault as a failure of the request. -/
def failure (fault : RouteFault) : Failure := .configuration fault.message

end RouteFault

/-- What a rule points at: a target, or a slot that may be empty. -/
inductive RouteSelection where
  | target (target : String) (reason : RouteReason)
  | slot (target : Option String) (reason : RouteReason)
  deriving DecidableEq, Repr, Inhabited

/-- What routes requests. -/
structure Router where
  settings : Config.GatewaySettings
  /-- Whether a model's name means background work. -/
  background : String → Bool
  /-- The number of tokens of a text, if a vocabulary could be loaded. -/
  vocabulary : Option (String → Nat)
  /-- What the caller says about a request, before any rule. -/
  hook : Request → Option String
  deriving Inhabited

namespace Router

/-- A router for a configuration. -/
def make (toolkit : Toolkit) (settings : Config.GatewaySettings)
    (hook : Request → Option String) : Except Failure Router :=
  let pattern := settings.router.backgroundModelPattern
  match toolkit.pattern pattern with
  | .ok background => .ok ⟨settings, background, toolkit.vocabulary, hook⟩
  | .error message =>
      .error (.configuration
        ("invalid background model pattern '" ++ pattern ++ "': " ++ message))

/-- The decision for a target, if a provider serves it. -/
def settleTarget (router : Router) (target : String) (reason : RouteReason) :
    Except RouteFault RouteDecision :=
  match Config.parseTarget? target with
  | none => .error (.malformedTarget reason target)
  | some (name, model) =>
      match router.settings.provider? name with
      | none => .error (.unknownProvider reason name)
      | some provider =>
          if provider.serves model then .ok ⟨name, model, reason⟩
          else .error (.modelNotServed reason model name)

/-- The decision for what a rule points at. -/
def settle (router : Router) : RouteSelection → Except RouteFault RouteDecision
  | .target target reason => router.settleTarget target reason
  | .slot target reason =>
      let isFilled (target : String) : Bool := !Text.isBlankText target
      match target.filter isFilled, router.settings.router.fallback.filter isFilled with
      | some target, _ => router.settleTarget target reason
      | none, some fallback => router.settleTarget fallback reason
      | none, none => .error (.noRoute reason)

/-- The rule for a request without a target of its own and without images to move. -/
def selectByContent (router : Router) (request : Request) : RouteSelection :=
  let rules := router.settings.router
  if request.thinkingEnabled then .slot rules.think .think
  else if router.background request.model then .slot rules.background .background
  else if rules.longContextThreshold < Tokens.ofRequest router.vocabulary request then
    .slot rules.longContext .longContext
  else if (request.tools.getD []).any Tool.isWebSearch then .slot rules.webSearch .webSearch
  else .slot none .fallback

/-- The first rule that matches, with the request and the cache after it.  The rules on directives
and images change the request. -/
def select (router : Router) (now : Nat) (requestId : String) (request : Request)
    (cache : AttachmentCache) : RouteSelection × Request × AttachmentCache :=
  match (router.hook request).filter fun target => !Text.isBlankText target with
  | some target => (.target target .custom, request, cache)
  | none =>
      if request.model.toList.contains ',' then
        (.target request.model .explicit, request, cache)
      else
        match Directive.take? request with
        | some (target, request) => (.target target .subagent, request, cache)
        | none =>
            let rules := router.settings.router
            if rules.imageRouting && request.hasInlineImage then
              if rules.forceInlineImages then
                (.slot rules.image .image, request.hoistImages, cache)
              else
                let (request, intake) := request.moveImages now requestId cache
                (.slot rules.image .image, request, intake.cache)
            else (router.selectByContent request, request, cache)

/-- Decides where a request goes.  On success the request asks for the decided model. -/
def resolve (router : Router) (now : Nat) (requestId : String) (request : Request)
    (cache : AttachmentCache) :
    Except RouteFault RouteDecision × Request × AttachmentCache :=
  let (selection, request, cache) := router.select now requestId request cache
  match router.settle selection with
  | .ok decision => (.ok decision, { request with model := decision.model }, cache)
  | .error fault => (.error fault, request, cache)

end Router

end ChatGateway
