import ChatGateway.Proofs.Config.Accepted
import ChatGateway.Proofs.Text.Search
import ChatGateway.Stage.Chain

/-!
# References of accepted configurations

After its checks a configuration names nothing that it does not declare: each slot that is filled
leads to a model of a provider, and each stage that a provider asks for, for whatever model, is known.
-/

namespace ChatGateway.Config

/-- A check of every item of a list was passed. -/
theorem forM_eq_ok {α : Type} {items : List α} {check : α → Except Rejection Unit}
    (accepted : items.forM check = .ok ()) : ∀ item ∈ items, check item = .ok () := by
  induction items with
  | nil => exact nofun
  | cons item rest ih =>
      obtain ⟨first, others⟩ := bind_eq_ok accepted
      intro other member
      rcases List.mem_cons.mp member with rfl | member
      · exact first
      · exact ih others other member

/-! ## Slots -/

/-- Whether a target leads to a model that a provider serves. -/
def GatewaySettings.Leads (settings : GatewaySettings) (target : String) : Prop :=
  ∃ name model provider, parseTarget? target = some (name, model) ∧
    settings.provider? name = some provider ∧ provider.serves model = true

theorem checkSlot_eq_ok {settings : GatewaySettings} {slot target : String}
    (accepted : checkSlot settings slot target = .ok ()) : settings.Leads target := by
  rw [checkSlot] at accepted
  split at accepted
  · cases accepted
  · rename_i name model parsed
    split at accepted
    · cases accepted
    · rename_i provider found
      have serves := reject_eq_ok accepted
      exact ⟨name, model, provider, parsed, found, by simpa using serves⟩

/-- A target of a provider and a model has more than blanks. -/
theorem isBlankText_of_parseTarget? {target : String} {parts : String × String}
    (parsed : parseTarget? target = some parts) : Text.isBlankText target = false := by
  rw [parseTarget?, Option.bind_eq_some_iff] at parsed
  obtain ⟨pieces, split, -⟩ := parsed
  rw [Text.splitAt?, Option.map_eq_some_iff] at split
  obtain ⟨⟨before, after⟩, found, -⟩ := split
  have whole := Text.append_of_cut? found
  have comma : ',' ∈ target.toList := by
    rw [whole]
    simp
  rw [Text.isBlankText, List.all_eq_false]
  exact ⟨',', comma, by decide⟩

/-! ## Stages -/

theorem checkStages_eq_ok {known : List String} {path : String} {index : Nat}
    {specs : List StageSpec} (accepted : checkStages known path index specs = .ok ()) :
    ∀ spec ∈ specs, spec.name ∈ known := by
  induction specs generalizing index with
  | nil => exact nofun
  | cons spec rest ih =>
      obtain ⟨first, others⟩ := bind_eq_ok accepted
      have found := reject_eq_ok first
      intro other member
      rcases List.mem_cons.mp member with rfl | member
      · simpa using found
      · exact ih others other member

theorem checkTransformers_eq_ok {known : List String} {index : Nat} {providers : List Provider}
    (accepted : checkTransformers known index providers = .ok ()) :
    ∀ provider ∈ providers, (∀ spec ∈ provider.transformer.stages, spec.name ∈ known) ∧
      ∀ entry ∈ provider.transformer.models, ∀ spec ∈ entry.2, spec.name ∈ known := by
  induction providers generalizing index with
  | nil => exact nofun
  | cons provider rest ih =>
      obtain ⟨shared, others⟩ := bind_eq_ok accepted
      obtain ⟨own, others⟩ := bind_eq_ok others
      intro other member
      rcases List.mem_cons.mp member with rfl | member
      · constructor
        · exact checkStages_eq_ok shared
        · intro entry inside
          exact checkStages_eq_ok (forM_eq_ok own entry inside)
      · exact ih others other member

/-! ## Whole configurations -/

namespace GatewaySettings

/-- What the checks tell of the names in a configuration. -/
structure Refers (settings : GatewaySettings) (known : List String) : Prop where
  accepted : settings.Accepted
  slots : ∀ slot target, (slot, some target) ∈ settings.router.slots → settings.Leads target
  stages : ∀ provider ∈ settings.providers, ∀ model, ∀ spec ∈ Chain.specs provider.transformer model,
    spec.name ∈ known

theorem refers_of_check {toolkit : Toolkit} {settings : GatewaySettings} {known : List String}
    (accepted : settings.check toolkit known = .ok ()) : settings.Refers known := by
  rw [check] at accepted
  obtain ⟨structural, others⟩ := bind_eq_ok accepted
  obtain ⟨slots, others⟩ := bind_eq_ok others
  obtain ⟨-, transformers⟩ := bind_eq_ok others
  constructor
  · exact accepted_of_checkStructure structural
  · intro slot target member
    exact checkSlot_eq_ok (forM_eq_ok slots _ member)
  · intro provider member model spec asked
    obtain ⟨shared, own⟩ := checkTransformers_eq_ok transformers provider member
    have among (stages : List StageSpec)
        (found : Dictionary.get? model provider.transformer.models = some stages)
        (inside : spec ∈ stages) : spec.name ∈ known := by
      obtain ⟨entry, first, rfl⟩ := Option.map_eq_some_iff.mp found
      exact own entry (List.mem_of_find?_eq_some first) spec inside
    rw [Chain.specs] at asked
    split at asked
    · exact shared spec asked
    · rename_i stages found
      split at asked
      · rcases List.mem_append.mp asked with inside | inside
        · exact shared spec inside
        · exact among stages found inside
      · exact among stages found asked

end GatewaySettings

end ChatGateway.Config
