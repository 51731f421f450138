import ChatGateway.Config.Validation
import Mathlib.Data.List.Basic

/-!
# Accepted configurations

What is known of a configuration after its checks: its providers have different names and keys of
their own, and its times are ordered.
-/

namespace ChatGateway.Config

variable {toolkit : Toolkit}

theorem reject_eq_ok {condition : Bool} {field : String} {fault : Fault} {hint : Option String}
    (accepted : reject condition field fault hint = .ok ()) : condition = false := by
  cases condition with
  | true => cases accepted
  | false => rfl

/-- A check that comes before others was passed, and so were the others. -/
theorem bind_eq_ok {first : Except Rejection Unit} {others : Unit → Except Rejection Unit}
    (accepted : (first >>= others) = .ok ()) : first = .ok () ∧ others () = .ok () := by
  cases first with
  | error rejection => cases accepted
  | ok done => exact ⟨rfl, accepted⟩

theorem bind_of_ok {first : Except Rejection Unit} {others : Unit → Except Rejection Unit}
    (passed : first = .ok ()) (rest : others () = .ok ()) : (first >>= others) = .ok () := by
  subst passed
  exact rest

theorem Provider.keys_ne_nil {provider : Provider} {path : String}
    (accepted : provider.check toolkit path = .ok ()) : provider.keys ≠ [] := by
  rw [Provider.check] at accepted
  have keys := reject_eq_ok (bind_eq_ok (bind_eq_ok (bind_eq_ok accepted).2).2).1
  rw [Bool.or_eq_false_iff, List.isEmpty_eq_false_iff] at keys
  exact keys.1

/-- Accepted providers have keys, and names of their own. -/
theorem checkProviders_eq_ok {seen : List String} {index : Nat} {providers : List Provider}
    (accepted : checkProviders toolkit seen index providers = .ok ()) :
    (∀ provider ∈ providers, provider.keys ≠ [] ∧ provider.name ∉ seen) ∧
      (providers.map Provider.name).Nodup := by
  induction providers generalizing seen index with
  | nil => simp
  | cons provider rest ih =>
      obtain ⟨fresh, others⟩ := bind_eq_ok accepted
      obtain ⟨own, others⟩ := bind_eq_ok others
      obtain ⟨each, different⟩ := ih others
      have unseen := reject_eq_ok fresh
      constructor
      · intro other member
        rcases List.mem_cons.mp member with rfl | member
        · exact ⟨Provider.keys_ne_nil own, by simpa using unseen⟩
        · constructor
          · exact (each other member).1
          · intro among
            exact (each other member).2 (.tail _ among)
      · rw [List.map_cons, List.nodup_cons]
        constructor
        · intro among
          obtain ⟨other, member, same⟩ := List.mem_map.mp among
          exact (each other member).2 (same ▸ List.mem_cons_self)
        · exact different

namespace GatewaySettings

/-- What the checks of a configuration tell of its providers and its keys. -/
structure Accepted (settings : GatewaySettings) : Prop where
  keys : ∀ provider ∈ settings.providers, provider.keys ≠ []
  names : (settings.providers.map Provider.name).Nodup
  ordered : settings.resilience.keys.base ≤ settings.resilience.keys.limit

theorem accepted_of_checkStructure {settings : GatewaySettings}
    (accepted : settings.checkStructure toolkit = .ok ()) : settings.Accepted := by
  rw [checkStructure] at accepted
  obtain ⟨-, others⟩ := bind_eq_ok accepted
  obtain ⟨providers, others⟩ := bind_eq_ok others
  obtain ⟨-, others⟩ := bind_eq_ok others
  obtain ⟨resilience, -⟩ := bind_eq_ok others
  obtain ⟨each, names⟩ := checkProviders_eq_ok providers
  rw [checkResilience] at resilience
  obtain ⟨-, others⟩ := bind_eq_ok resilience
  obtain ⟨-, others⟩ := bind_eq_ok others
  obtain ⟨delays, -⟩ := bind_eq_ok others
  have ordered := reject_eq_ok delays
  exact ⟨fun provider member => (each provider member).1, names, by simpa using ordered⟩

/-- Chance moves a delay by a share of it that lies between zero and one. -/
theorem jitter_of_checkStructure {settings : GatewaySettings}
    (accepted : settings.checkStructure toolkit = .ok ()) :
    settings.resilience.retry.jitter ≠ .undefined ∧
      settings.resilience.retry.jitter.less (Binary.ofInt .double 0) = false ∧
      (Binary.ofInt .double 1).less settings.resilience.retry.jitter = false := by
  rw [checkStructure] at accepted
  obtain ⟨-, others⟩ := bind_eq_ok accepted
  obtain ⟨-, others⟩ := bind_eq_ok others
  obtain ⟨-, others⟩ := bind_eq_ok others
  obtain ⟨resilience, -⟩ := bind_eq_ok others
  rw [checkResilience] at resilience
  obtain ⟨-, others⟩ := bind_eq_ok resilience
  obtain ⟨-, others⟩ := bind_eq_ok others
  obtain ⟨-, others⟩ := bind_eq_ok others
  obtain ⟨-, jitter⟩ := bind_eq_ok others
  have within := reject_eq_ok jitter
  simp only [Bool.or_eq_false_iff, beq_eq_false_iff_ne] at within
  exact ⟨within.1.1, within.1.2, within.2⟩

end GatewaySettings

end ChatGateway.Config
