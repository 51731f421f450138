import ChatGateway.Proofs.Gateway.Rotation
import ChatGateway.Proofs.Routing.Decisions
import Mathlib.Data.List.Nodup

/-!
# Routes of a gateway

A gateway checks its configuration once, when it is made.  Afterwards its parts trust the names in
it: the chains were made of known stages, a slot leads to a model that is served, and a decision finds
its provider and its chain.
-/

namespace ChatGateway

/-! ## Chains -/

section

variable {ε α β : Type} {first : Except ε α} {others : α → Except ε β}

/-- An error comes from the first part or from the second. -/
theorem or_of_bind_eq_error {error : ε} (failed : (first >>= others) = .error error) :
    first = .error error ∨ ∃ value, first = .ok value ∧ others value = .error error := by
  cases first with
  | error own =>
      cases failed
      exact .inl rfl
  | ok value => exact .inr ⟨value, rfl, failed⟩

theorem exists_of_bind_eq_ok {result : β} (made : (first >>= others) = .ok result) :
    ∃ value, first = .ok value ∧ others value = .ok result := by
  cases first with
  | error own => cases made
  | ok value => exact ⟨value, rfl, made⟩

end

theorem Stage.Registry.make_ne_unknownStage {registry : Stage.Registry} {spec : Config.StageSpec}
    (known : spec.name ∈ registry.names) (name : String) :
    registry.make spec ≠ .error (.unknownStage name) := by
  obtain ⟨entry, member, own⟩ := List.mem_map.mp known
  have found : (Dictionary.get? spec.name registry).isSome = true := by
    rw [Dictionary.get?, Option.isSome_map, List.find?_isSome]
    exact ⟨entry, member, by simpa using own⟩
  intro failed
  rw [make] at failed
  cases stored : Dictionary.get? spec.name registry with
  | none =>
      rw [stored] at found
      cases found
  | some maker =>
      cases made : maker spec.optionTable with
      | ok stage =>
          simp only [stored, made] at failed
          cases failed
      | error fault =>
          simp only [stored, made] at failed
          cases failed

theorem Chain.makeAll_ne_unknownStage {registry : Stage.Registry} {specs : List Config.StageSpec}
    (known : ∀ spec ∈ specs, spec.name ∈ registry.names) (name : String) :
    makeAll registry specs ≠ .error (.unknownStage name) := by
  induction specs with
  | nil => nofun
  | cons spec rest ih =>
      intro failed
      rcases or_of_bind_eq_error failed with own | ⟨stage, -, others⟩
      · exact Stage.Registry.make_ne_unknownStage (known spec List.mem_cons_self) name own
      · rcases or_of_bind_eq_error others with later | ⟨stages, -, made⟩
        · exact ih (fun other member => known other (.tail _ member)) later
        · cases made

namespace Gateway

variable {registry : Stage.Registry}

theorem chainsOfModels_ne_unknownStage {provider : Config.Provider} {models : List String}
    (known : ∀ model, ∀ spec ∈ Chain.specs provider.transformer model,
      spec.name ∈ registry.names) (name : String) :
    chainsOfModels registry provider models ≠ .error (.unknownStage name) := by
  induction models with
  | nil => nofun
  | cons model rest ih =>
      intro failed
      rcases or_of_bind_eq_error failed with own | ⟨chain, -, others⟩
      · rw [Chain.build] at own
        cases made : Chain.makeAll registry (Chain.specs provider.transformer model) with
        | error error =>
            rw [made] at own
            cases own
            exact Chain.makeAll_ne_unknownStage (known model) name made
        | ok stages =>
            rw [made] at own
            cases own
      · rcases or_of_bind_eq_error others with later | ⟨chains, -, made⟩
        · exact ih later
        · cases made

/-- Chains of known stages are made without asking for an unknown one. -/
theorem chainsOf_ne_unknownStage {providers : List Config.Provider}
    (known : ∀ provider ∈ providers, ∀ model, ∀ spec ∈ Chain.specs provider.transformer model,
      spec.name ∈ registry.names) (name : String) :
    chainsOf registry providers ≠ .error (.unknownStage name) := by
  induction providers with
  | nil => nofun
  | cons provider rest ih =>
      intro failed
      rcases or_of_bind_eq_error failed with own | ⟨chains, -, others⟩
      · exact chainsOfModels_ne_unknownStage (known provider List.mem_cons_self) name own
      · rcases or_of_bind_eq_error others with later | ⟨more, -, made⟩
        · exact ih (fun other member => known other (.tail _ member)) later
        · cases made

theorem mem_chainsOfModels {provider : Config.Provider} {models : List String}
    {chains : ChainTable} (made : chainsOfModels registry provider models = .ok chains)
    (entry : (String × String) × Chain) :
    entry ∈ chains ↔ ∃ model ∈ models, entry.1 = (provider.name, model) ∧
      Chain.build registry provider.transformer model = .ok entry.2 := by
  induction models generalizing chains with
  | nil =>
      cases made
      simp
  | cons model rest ih =>
      obtain ⟨chain, built, others⟩ := exists_of_bind_eq_ok made
      obtain ⟨more, later, result⟩ := exists_of_bind_eq_ok others
      cases result
      obtain ⟨key, own⟩ := entry
      rw [List.mem_cons, ih later]
      simp only [List.mem_cons, exists_eq_or_imp, Prod.mk.injEq, built, Except.ok.injEq]
      rw [eq_comm (a := own)]

/-- The table has the chain of each model of each provider. -/
theorem mem_chainsOf {providers : List Config.Provider} {chains : ChainTable}
    (made : chainsOf registry providers = .ok chains) (entry : (String × String) × Chain) :
    entry ∈ chains ↔ ∃ provider ∈ providers, ∃ model ∈ provider.models,
      entry.1 = (provider.name, model) ∧
        Chain.build registry provider.transformer model = .ok entry.2 := by
  induction providers generalizing chains with
  | nil =>
      cases made
      simp
  | cons provider rest ih =>
      obtain ⟨own, first, others⟩ := exists_of_bind_eq_ok made
      obtain ⟨more, later, result⟩ := exists_of_bind_eq_ok others
      cases result
      simp only [List.mem_append, mem_chainsOfModels first, ih later, List.mem_cons,
        exists_eq_or_imp]

theorem exists_build_of_chainsOfModels {provider : Config.Provider} {models : List String}
    {chains : ChainTable} (made : chainsOfModels registry provider models = .ok chains) :
    ∀ model ∈ models, ∃ chain, Chain.build registry provider.transformer model = .ok chain := by
  induction models generalizing chains with
  | nil => nofun
  | cons model rest ih =>
      obtain ⟨chain, built, others⟩ := exists_of_bind_eq_ok made
      obtain ⟨more, later, -⟩ := exists_of_bind_eq_ok others
      intro other member
      rcases List.mem_cons.mp member with rfl | member
      · exact ⟨chain, built⟩
      · exact ih later other member

theorem exists_build_of_chainsOf {providers : List Config.Provider} {chains : ChainTable}
    (made : chainsOf registry providers = .ok chains) :
    ∀ provider ∈ providers, ∀ model ∈ provider.models,
      ∃ chain, Chain.build registry provider.transformer model = .ok chain := by
  induction providers generalizing chains with
  | nil => nofun
  | cons provider rest ih =>
      obtain ⟨own, first, others⟩ := exists_of_bind_eq_ok made
      obtain ⟨more, later, -⟩ := exists_of_bind_eq_ok others
      intro other member
      rcases List.mem_cons.mp member with rfl | member
      · exact exists_build_of_chainsOfModels first
      · exact ih later other member

/-! ## Making a gateway -/

theorem make_eq_ok {toolkit : Toolkit} {settings : Config.GatewaySettings} {connects : Bool}
    {hook : Request → Option String} {gateway : Gateway}
    (made : make toolkit settings registry connects hook = .ok gateway) :
    gateway.settings = settings ∧ gateway.router.settings = settings ∧
      chainsOf registry settings.providers = .ok gateway.chains := by
  rw [make] at made
  split at made
  · dsimp only [bind, Except.bind] at made
    split at made
    · rename_i chains table
      have routed : ∃ router, Router.make toolkit settings hook = .ok router ∧
          gateway = ⟨settings, router, chains⟩ := by
        split at made
        · obtain ⟨-, -, others⟩ := exists_of_bind_eq_ok made
          obtain ⟨router, routes, result⟩ := exists_of_bind_eq_ok others
          cases result
          exact ⟨router, routes, rfl⟩
        · obtain ⟨router, routes, result⟩ := exists_of_bind_eq_ok made
          cases result
          exact ⟨router, routes, rfl⟩
      obtain ⟨router, routes, rfl⟩ := routed
      rw [Router.make] at routes
      split at routes
      · cases routes
        exact ⟨rfl, rfl, table⟩
      · cases routes
    · cases made
  · cases made

/-! ## Serving requests -/

/-- The chain that is found is the one of the provider for the model. -/
theorem exists_chain? {settings : Config.GatewaySettings} {gateway : Gateway}
    (accepted : settings.Accepted)
    (table : chainsOf registry settings.providers = .ok gateway.chains)
    {name model : String} {provider : Config.Provider}
    (found : settings.provider? name = some provider) (serves : provider.serves model = true) :
    ∃ chain, Chain.build registry provider.transformer model = .ok chain ∧
      gateway.chain? name model = some chain := by
  have declared := List.mem_of_find?_eq_some found
  have named : provider.name = name := by simpa using List.find?_some found
  have served : model ∈ provider.models := by simpa [Config.Provider.serves] using serves
  obtain ⟨chain, built⟩ := exists_build_of_chainsOf table provider declared model served
  refine ⟨chain, built, ?_⟩
  have member : ((name, model), chain) ∈ gateway.chains :=
    (mem_chainsOf table _).mpr ⟨provider, declared, model, served, by rw [named], built⟩
  obtain ⟨entry, first⟩ : ∃ entry, gateway.chains.find?
      (fun entry => entry.1 == (name, model)) = some entry :=
    Option.isSome_iff_exists.mp (List.find?_isSome.mpr ⟨_, member, by simp⟩)
  obtain ⟨other, also, model', -, key, made⟩ :=
    (mem_chainsOf table entry).mp (List.mem_of_find?_eq_some first)
  have own : entry.1 = (name, model) := by simpa using List.find?_some first
  rw [own, Prod.mk.injEq] at key
  obtain ⟨alike, rfl⟩ := key
  have same : other = provider :=
    List.inj_on_of_nodup_map accepted.names also declared (alike.symm.trans named.symm)
  rw [same, built] at made
  cases made
  rw [chain?, first]
  rfl

/-- Whether requests find their way through a gateway. -/
structure RoutesSoundly (registry : Stage.Registry) (gateway : Gateway) : Prop where
  /-- A rule with a slot finds no route just when neither its slot nor the default is filled. -/
  slots : ∀ now requestId request cache slot fault,
    gateway.settings.router.slotOf?
        (gateway.router.select now requestId request cache).1.reason = some slot →
      ((gateway.router.resolve now requestId request cache).1 = .error fault ↔
        fault = .noRoute (gateway.router.select now requestId request cache).1.reason ∧
          slot = none ∧ gateway.settings.router.fallback = none)
  /-- A decision names a model that the provider serves, with a chain of its own. -/
  decided : ∀ now requestId request cache decision,
    (gateway.router.resolve now requestId request cache).1 = .ok decision →
      (gateway.router.resolve now requestId request cache).2.1.model = decision.model ∧
        ∃ provider chain, gateway.settings.provider? decision.provider = some provider ∧
          provider.serves decision.model = true ∧
          Chain.build registry provider.transformer decision.model = .ok chain ∧
          gateway.chain? decision.provider decision.model = some chain
  /-- Nothing but routing refuses a request. -/
  accepted : ∀ now request state failure, (gateway.accept now request state).1 = .error failure →
    ∃ fault, failure = fault.failure ∧
      (gateway.router.resolve now state.supply.draw.1.text request state.cache).1 = .error fault

/-- A gateway with an accepted configuration is made of known stages, and whatever it is asked, a
request finds its way unless a rule that names a target itself names a wrong one, or the slot of the
rule and the default are both empty. -/
theorem routesSoundly_of_check {toolkit : Toolkit} {settings : Config.GatewaySettings}
    {registry : Stage.Registry} (accepted : settings.check toolkit registry.names = .ok ()) :
    (∀ name, chainsOf registry settings.providers ≠ .error (.unknownStage name)) ∧
      ∀ connects hook gateway, make toolkit settings registry connects hook = .ok gateway →
        gateway.settings = settings ∧ gateway.RoutesSoundly registry := by
  have refers := Config.GatewaySettings.refers_of_check accepted
  refine ⟨chainsOf_ne_unknownStage refers.stages, ?_⟩
  intro connects hook gateway made
  obtain ⟨own, routed, table⟩ := make_eq_ok made
  have served (now requestId request cache decision)
      (decided : (gateway.router.resolve now requestId request cache).1 = .ok decision) :
      ∃ provider chain, gateway.settings.provider? decision.provider = some provider ∧
        provider.serves decision.model = true ∧
        Chain.build registry provider.transformer decision.model = .ok chain ∧
        gateway.chain? decision.provider decision.model = some chain := by
    rw [Router.resolve_fst] at decided
    obtain ⟨provider, found, serves⟩ := Router.settle_eq_ok decided
    rw [routed] at found
    obtain ⟨chain, built, has⟩ := exists_chain? refers.accepted table found serves
    exact ⟨provider, chain, own ▸ found, serves, built, has⟩
  refine ⟨own, ?_⟩
  constructor
  · intro now requestId request cache slot fault held
    rw [own, ← routed] at held ⊢
    rw [← routed] at refers
    exact Router.resolve_eq_error refers held
  · intro now requestId request cache decision decided
    exact ⟨Router.model_resolve decided, served _ _ _ _ _ decided⟩
  · intro now request state failure refused
    rw [accept] at refused
    dsimp only at refused
    split at refused
    · rename_i fault decided
      cases refused
      exact ⟨fault, rfl, decided⟩
    · rename_i decision decided
      obtain ⟨provider, chain, found, -, -, has⟩ := served _ _ _ _ _ decided
      simp only [found, has] at refused
      cases refused

/-- Thinking goes to a model of its own and anything else goes nowhere. -/
theorem routesSoundly_of_check_thinking :
    let toolkit := Toolkit.sample fun _ => 1
    let rules := { Config.RoutingRules.standard with think := some "local, m" }
    let settings := { Config.GatewaySettings.ofTwoKeys 300000 with router := rules }
    let thoughtful := { Request.ofMessages "m" [] with thinking := some (.enabled 1024) }
    settings.check toolkit Stage.builtins.names = .ok () ∧
      ∃ gateway, make toolkit settings Stage.builtins false (fun _ => none) = .ok gateway ∧
        gateway.RoutesSoundly Stage.builtins ∧
        (gateway.router.resolve 0 "" thoughtful default).1 = .ok ⟨"local", "m", .think⟩ ∧
        (gateway.router.resolve 0 "" (.ofMessages "m" []) default).1 =
          .error (.noRoute .fallback) := by
  intro toolkit rules settings thoughtful
  have structural : settings.checkStructure toolkit = .ok () :=
    Config.GatewaySettings.checkStructure_ofTwoKeys (by decide +kernel) (by decide)
  have accepted : settings.check toolkit Stage.builtins.names = .ok () :=
    Config.bind_of_ok structural (by decide +kernel)
  let background :=
    (Pattern.parse? settings.router.backgroundModelPattern).get (by decide +kernel)
  let router : Router := ⟨settings, background.matchesIn, toolkit.vocabulary, fun _ => none⟩
  let gateway : Gateway := ⟨settings, router, [(("local", "m"), ⟨[]⟩)]⟩
  have routes : Router.make toolkit settings (fun _ => none) = .ok router :=
    Router.make_sample (by decide +kernel) _ _
  have made : make toolkit settings Stage.builtins false (fun _ => none) = .ok gateway := by
    rw [make, accepted]
    change (Router.make toolkit settings (fun _ => none) >>= fun router =>
      Except.ok (Gateway.mk settings router gateway.chains)) = _
    rw [routes]
    rfl
  refine ⟨accepted, gateway, made, ?_, ?_, ?_⟩
  · exact ((routesSoundly_of_check accepted).2 false _ gateway made).2
  · rw [Router.resolve_fst]
    decide +kernel
  · rw [Router.resolve_fst]
    decide +kernel

end Gateway

end ChatGateway
