import ChatGateway.Proofs.Config.References
import ChatGateway.Routing.Router
import ChatGateway.Sample.Toolkit

/-!
# Decisions of a router

A rule either names a target itself or has a slot of the configuration.  With an accepted
configuration only the first kind can go wrong in its target; a rule with a slot finds no route just
when neither its slot nor the default is filled.
-/

namespace ChatGateway

/-- The slot of a rule; the first three rules have none. -/
def Config.RoutingRules.slotOf? (rules : Config.RoutingRules) :
    RouteReason → Option (Option String)
  | .custom | .explicit | .subagent => none
  | .image => some rules.image
  | .think => some rules.think
  | .background => some rules.background
  | .longContext => some rules.longContext
  | .webSearch => some rules.webSearch
  | .fallback => some rules.fallback

theorem Config.RoutingRules.mem_slots {rules : Config.RoutingRules} {reason : RouteReason}
    {target : String} (held : rules.slotOf? reason = some (some target)) :
    (reason.name, some target) ∈ rules.slots := by
  cases reason with
  | custom | explicit | subagent => cases held
  | image | think | background | longContext | webSearch | fallback =>
      simp only [slotOf?, Option.some.injEq] at held
      simp [slots, RouteReason.name, held]

/-- Whatever the slot of a rule holds leads somewhere. -/
theorem Config.GatewaySettings.Refers.leads_of_slotOf? {settings : Config.GatewaySettings}
    {known : List String} (refers : settings.Refers known) (reason : RouteReason) {target : String}
    (held : settings.router.slotOf? reason = some (some target)) : settings.Leads target :=
  refers.slots reason.name target (Config.RoutingRules.mem_slots held)

/-- The rule that made a selection. -/
def RouteSelection.reason : RouteSelection → RouteReason
  | .target _ reason => reason
  | .slot _ reason => reason

namespace Router

/-- What a rule with a slot can select: what the slot holds; the last rule leaves it to the default. -/
inductive SelectsSlot (rules : Config.RoutingRules) : RouteSelection → Prop where
  | own {slot : Option String} {reason : RouteReason} (known : rules.slotOf? reason = some slot) :
      SelectsSlot rules (.slot slot reason)
  | fallback : SelectsSlot rules (.slot none .fallback)

variable {router : Router}

theorem selectsSlot_selectByContent (router : Router) (request : Request) :
    SelectsSlot router.settings.router (router.selectByContent request) := by
  simp only [selectByContent]
  split
  · exact .own rfl
  · split
    · exact .own rfl
    · split
      · exact .own rfl
      · split
        · exact .own rfl
        · exact .fallback

/-- A selection by a rule with a slot is one of what the slot holds. -/
theorem selectsSlot_select (router : Router) (now : Nat) (requestId : String) (request : Request)
    (cache : AttachmentCache) :
    ∀ slot, router.settings.router.slotOf?
        (router.select now requestId request cache).1.reason = some slot →
      SelectsSlot router.settings.router (router.select now requestId request cache).1 := by
  unfold select
  split
  · intro slot known
    cases known
  · split
    · intro slot known
      cases known
    · split
      · intro slot known
        cases known
      · intro slot _
        dsimp only
        split
        · split
          · exact .own rfl
          · exact .own rfl
        · exact selectsSlot_selectByContent router request

/-! ## Settling -/

theorem settleTarget_eq_ok {target : String} {reason : RouteReason} {decision : RouteDecision}
    (settled : router.settleTarget target reason = .ok decision) :
    ∃ provider, router.settings.provider? decision.provider = some provider ∧
      provider.serves decision.model = true := by
  rw [settleTarget] at settled
  split at settled
  · cases settled
  · split at settled
    · cases settled
    · rename_i provider found
      split at settled
      · rename_i serves
        cases settled
        exact ⟨provider, found, serves⟩
      · cases settled

/-- However a decision comes about, the provider serves the model. -/
theorem settle_eq_ok {selection : RouteSelection} {decision : RouteDecision}
    (settled : router.settle selection = .ok decision) :
    ∃ provider, router.settings.provider? decision.provider = some provider ∧
      provider.serves decision.model = true := by
  cases selection with
  | target target reason => exact settleTarget_eq_ok settled
  | slot slot reason =>
      rw [settle] at settled
      split at settled
      · exact settleTarget_eq_ok settled
      · exact settleTarget_eq_ok settled
      · cases settled

theorem settleTarget_of_leads {target : String} (leads : router.settings.Leads target)
    (reason : RouteReason) : ∃ decision, router.settleTarget target reason = .ok decision := by
  obtain ⟨name, model, provider, parsed, found, serves⟩ := leads
  exact ⟨⟨name, model, reason⟩, by simp [settleTarget, parsed, found, serves]⟩

theorem filter_of_leads {target : String} (leads : router.settings.Leads target) :
    (some target).filter (fun target => !Text.isBlankText target) = some target := by
  obtain ⟨name, model, provider, parsed, -⟩ := leads
  simp [Config.isBlankText_of_parseTarget? parsed]

/-- Slots that are filled lead somewhere, so nothing but their absence is a fault. -/
theorem settle_slot_eq_error {slot : Option String} {reason : RouteReason} {fault : RouteFault}
    (own : ∀ target, slot = some target → router.settings.Leads target)
    (spare : ∀ target, router.settings.router.fallback = some target →
      router.settings.Leads target) :
    router.settle (.slot slot reason) = .error fault ↔
      fault = .noRoute reason ∧ slot = none ∧ router.settings.router.fallback = none := by
  rw [settle]
  cases slot with
  | some target =>
      obtain ⟨decision, settled⟩ := settleTarget_of_leads (own target rfl) reason
      simp [filter_of_leads (own target rfl), settled]
  | none =>
      cases default : router.settings.router.fallback with
      | some target =>
          obtain ⟨decision, settled⟩ := settleTarget_of_leads (spare target default) reason
          simp [filter_of_leads (spare target default), settled]
      | none =>
          simp only [Option.filter_none, Except.error.injEq, and_true]
          exact eq_comm

/-! ## Resolving -/

theorem resolve_fst (router : Router) (now : Nat) (requestId : String) (request : Request)
    (cache : AttachmentCache) :
    (router.resolve now requestId request cache).1 =
      router.settle (router.select now requestId request cache).1 := by
  rw [resolve]
  dsimp only
  split
  · rename_i settled
    exact settled.symm
  · rename_i settled
    exact settled.symm

/-- A decided request asks for the decided model. -/
theorem model_resolve {now : Nat} {requestId : String} {request : Request}
    {cache : AttachmentCache} {decision : RouteDecision}
    (decided : (router.resolve now requestId request cache).1 = .ok decision) :
    (router.resolve now requestId request cache).2.1.model = decision.model := by
  rw [resolve_fst] at decided
  rw [resolve]
  simp only [decided]

theorem make_sample {settings : Config.GatewaySettings}
    (parsed : (Pattern.parse? settings.router.backgroundModelPattern).isSome = true)
    (weigh : List Char → Nat) (hook : Request → Option String) :
    make (.sample weigh) settings hook = .ok
      ⟨settings, ((Pattern.parse? settings.router.backgroundModelPattern).get parsed).matchesIn,
        (Toolkit.sample weigh).vocabulary, hook⟩ := by
  have compiled := Pattern.compile_of_isSome parsed
  simp only [make, Toolkit.sample, compiled]

/-- A rule with a slot finds no route just when there is none in it and no default. -/
theorem resolve_eq_error {known : List String} (refers : router.settings.Refers known) {now : Nat}
    {requestId : String} {request : Request} {cache : AttachmentCache} {slot : Option String}
    {fault : RouteFault}
    (own : router.settings.router.slotOf? (router.select now requestId request cache).1.reason =
      some slot) :
    (router.resolve now requestId request cache).1 = .error fault ↔
      fault = .noRoute (router.select now requestId request cache).1.reason ∧ slot = none ∧
        router.settings.router.fallback = none := by
  have spare (target : String) (filled : router.settings.router.fallback = some target) :
      router.settings.Leads target := refers.leads_of_slotOf? .fallback (congrArg some filled)
  have selects := router.selectsSlot_select now requestId request cache slot own
  rw [resolve_fst]
  generalize (router.select now requestId request cache).1 = selection at own selects ⊢
  cases selects with
  | fallback =>
      have empty (target : String) (filled : (none : Option String) = some target) :
          router.settings.Leads target := by cases filled
      rw [settle_slot_eq_error empty spare]
      simp only [RouteSelection.reason, Config.RoutingRules.slotOf?, Option.some.injEq] at own ⊢
      simp [← own]
  | @own _ reason known =>
      rw [RouteSelection.reason, known] at own
      cases own
      refine settle_slot_eq_error (fun target filled => ?_) spare
      subst filled
      exact refers.leads_of_slotOf? reason known

end Router

end ChatGateway
