import Flod.Net.AddressText
import Flod.Stage2.Enforcement
import Flod.Stage2.Playbook

/-! The addresses an operator types, against the texts enforcement compares them with. Every
endpoint checks that the text is an address and keeps it as it was typed. -/

namespace Flod.Stage2
open Flod.Lib Flod.Net

section Endpoints

-- `ipaddress.ip_address`, none for a `ValueError`, and whether `ip_network` accepts a text
variable (ipAddress : String → Option IpAddr) (ipNetwork : String → Bool)

/-- The text is checked and returned unchanged. -/
def validateHostIp (ip : String) : Option String := (ipAddress ip).map (fun _ => ip)

inductive ScopeType where
  | host
  | subnet
  | all
  deriving DecidableEq, Repr

/-- The scope stored with a playbook, or the detail of a 400. -/
def validateScope (scopeType : ScopeType) (value : Option String) : Except String Scope :=
  let text := value.getD ""
  match scopeType with
  | .host =>
      if text = "" then .error "target_scope_value is required for scope type 'host'."
      else if (ipAddress text).isSome then .ok (.host text)
      else .error ("'" ++ text ++ "' is not a valid host address.")
  | .subnet =>
      if text = "" then .error "target_scope_value is required for scope type 'subnet'."
      else if ipNetwork text then .ok (.subnet text)
      else .error ("'" ++ text ++ "' is not a valid subnet (CIDR).")
  | .all => .ok .all

end Endpoints

variable {F : Type} [Arith F]

/-- The texts an address reaches enforcement under: from a feature vector, from a flow. -/
def observedTexts (a : IpAddr) : List String := [decodeIp a.slot, a.display]

/-- What is stored for an address takes effect wherever that address turns up. -/
structure MatchedByAddress (F : Type) [Arith F] (listed : String) (scope : Scope) (a : IpAddr) : Prop where
  whitelisted : ∀ (env : Surroundings F) (fw : Firewall F) (call : Call F), listed ∈ env.whitelist →
    call.ip ∈ observedTexts a → ipsetCommand env fw call = none
  shared : ∀ (env : Surroundings F) (fw : Firewall F) (call : Call F), listed ∈ env.sharedIps →
    call.ip ∈ observedTexts a → ∀ ip, ipsetCommand env fw call ≠ some (.ddosBlocklist, ip)
  covered : ∀ (store : PlaybookStore F) (p : Playbook F), p ∈ store.playbooks → p.enabled = true →
    p.scope = scope → p ∈ store.enabledFor (decodeIp a.slot)

/-- An address that is on no list is blocked, so a whitelist that spares it names its text. -/
theorem text_of_spared {listed text : String}
    (spared : ∀ (env : Surroundings F) (fw : Firewall F) (call : Call F), listed ∈ env.whitelist →
      call.ip = text → ipsetCommand env fw call = none) : listed = text := by
  have silent := spared ⟨0, [listed], [], [], fun _ _ => true⟩ Firewall.empty
    ⟨.block, text, 0, "", none, none⟩ List.mem_cons_self rfl
  by_contra other
  simp [ipsetCommand, Firewall.debounced, Firewall.empty, Ne.symm other] at silent

theorem matched_of_text {a : IpAddr} {listed : String} (observed : ∀ text ∈ observedTexts a, text = listed) :
    MatchedByAddress F listed (.host listed) a where
  whitelisted := by
    intro env fw call whitelisted seen
    rw [← observed call.ip seen] at whitelisted
    cases issued : ipsetCommand env fw call with
    | none => rfl
    | some command => exact absurd whitelisted (ipsetCommand_exposed env fw call issued).2.1
  shared := by
    intro env fw call shared seen ip issued
    rw [← observed call.ip seen] at shared
    exact (ipsetCommand_exposed env fw call issued).2.2 rfl shared
  covered := by
    intro store p member enabled scope
    have text := observed (decodeIp a.slot) List.mem_cons_self
    simp [PlaybookStore.enabledFor, member, enabled, scope, text]

/-- Of the texts the endpoints accept, those that take effect wherever their address turns up
are the canonical ones, of addresses that are not IPv4 in an IPv6 wrapping. -/
theorem matched_by_address_iff (ipAddress : String → Option IpAddr) (ipNetwork : String → Bool)
    (typed listed : String) (scope : Scope) (a : IpAddr) (parsed : ipAddress typed = some a)
    (accepted : validateHostIp ipAddress typed = some listed)
    (stored : validateScope ipAddress ipNetwork .host (some typed) = .ok scope) :
    MatchedByAddress F listed scope a ↔ a.Unmapped ∧ typed = a.text := by
  have kept : listed = typed := by simpa [validateHostIp, parsed] using accepted.symm
  have host : scope = .host typed := by
    simp only [validateScope, Option.getD_some, parsed, Option.isSome_some, if_true] at stored
    split at stored
    · cases stored
    · cases stored
      rfl
  subst kept host
  constructor
  · intro matched
    have named : ∀ text ∈ observedTexts a, listed = text := by
      intro text seen
      refine text_of_spared (F := F) fun env fw call whitelisted same => ?_
      exact matched.whitelisted env fw call whitelisted (same ▸ seen)
    have vector : listed = decodeIp a.slot := named _ List.mem_cons_self
    have flow : listed = a.display := named _ (List.mem_cons_of_mem _ List.mem_cons_self)
    have unmapped := unmapped_of_decodeIp (vector.symm.trans flow)
    exact ⟨unmapped, flow.trans (display_eq_text unmapped)⟩
  · rintro ⟨unmapped, rfl⟩
    apply matched_of_text
    intro text seen
    simp only [observedTexts, List.mem_cons, List.not_mem_nil, or_false] at seen
    rcases seen with rfl | rfl
    · exact decodeIp_slot unmapped
    · exact display_eq_text unmapped

/-- An IPv6 address and two of the spellings `ipaddress` reads it from. -/
def documentationHost : IpAddr := .v6 0x20010db8000000000000000000000001

def spellings (text : String) : Option IpAddr :=
  if text = "2001:db8::1" ∨ text = "2001:DB8::1" then some documentationHost else none

theorem canonical_matched : spellings "2001:db8::1" = some documentationHost ∧
    MatchedByAddress ℚ "2001:db8::1" (.host "2001:db8::1") documentationHost := by
  refine ⟨by decide, ?_⟩
  apply (matched_by_address_iff spellings (fun _ => false) "2001:db8::1" "2001:db8::1"
    (.host "2001:db8::1") documentationHost (by decide) (by decide) rfl).mpr
  decide +kernel

/-- The same address typed in capitals: accepted by every endpoint, then blocked although it
is whitelisted, blocked although it is shared, and its playbook not found. -/
theorem capitals_unmatched :
    spellings "2001:DB8::1" = some documentationHost ∧
    validateHostIp spellings "2001:DB8::1" = some "2001:DB8::1" ∧
    validateScope spellings (fun _ => false) .host (some "2001:DB8::1") = .ok (.host "2001:DB8::1") ∧
    ipsetCommand (⟨0, ["2001:DB8::1"], [], [], fun _ _ => true⟩ : Surroundings ℚ) Firewall.empty
      ⟨.block, decodeIp documentationHost.slot, 600, "", none, none⟩ = some (.ddosBlocklist, "2001:db8::1") ∧
    ipsetCommand (⟨0, [], ["2001:DB8::1"], [], fun _ _ => true⟩ : Surroundings ℚ) Firewall.empty
      ⟨.block, decodeIp documentationHost.slot, 600, "", none, none⟩ = some (.ddosBlocklist, "2001:db8::1") ∧
    (PlaybookStore.enabledFor ({ playbooks := [⟨1, true, .host "2001:DB8::1", none⟩] } : PlaybookStore ℚ)
      (decodeIp documentationHost.slot)).length = 0 := by
  refine ⟨by decide, by decide, rfl, ?_, ?_, ?_⟩ <;> decide +kernel

end Flod.Stage2
